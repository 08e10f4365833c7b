import ChatMarkup.Proofs.Markup.Accounts
import ChatMarkup.Proofs.Markup.Cut
import ChatMarkup.Proofs.Markup.OpenTags

/-!
# Splitting is a partition

A markup is split into messages by cutting it into pieces, in order and without loss. No boundary
between pieces lies inside a tag or a character reference. Each piece becomes one message: the tags
that are open before it in the whole markup are opened again at its start, and whatever is open at
its end is closed. Messages that show nothing are left out, and no other text goes with them.

The account of a splitter already accounts for all text. What is added here is where the cuts fall:
the splitter sees only its buffer, yet its cuts are clean in the whole markup, and the tags it
carries over are those that the whole markup has open there.
-/
namespace ChatMarkup.Markup

/-- The messages of a row of pieces that stands behind a text: each piece behind the tags that are
open before it, and balanced. -/
def messages (before : List Char) : List (List Char) → List (List Char)
  | [] => []
  | piece :: pieces =>
    balance (openingTags (openTags before) ++ piece) :: messages (before ++ piece) pieces

theorem messages_append (before : List Char) (xs ys : List (List Char)) :
    messages before (xs ++ ys) = messages before xs ++ messages (before ++ xs.flatten) ys := by
  induction xs generalizing before with
  | nil => simp [messages]
  | cons x xs ih => simp [messages,ih]

/-- The cuts of a splitter agree with the whole markup, of which some is still unread: it carries
over the tags that are open in all the pieces so far, and these end at clean boundaries, as does
what lies before its safe place. -/
structure Aligned (b : Splitter) (fs : List Fragment) (unread : List Char) : Prop where
  carried : carriedOver fs = openingTags (openTags (contents fs))
  messages : (fs.map fun f => balance f.text) = messages [] (fs.map (·.content))
  seams : ∀ before after, fs.map (·.content) = before ++ after →
    Clean before.flatten (after.flatten ++ (b.buffer.drop b.carried ++ unread))
  safe : ∀ safe, b.lastSafe = some safe → b.carried < safe →
    Clean (contents fs ++ (b.buffer.drop b.carried).take (safe - b.carried))
      ((b.buffer.drop b.carried).drop (safe - b.carried) ++ unread)

theorem contents_eq_flatten (fs : List Fragment) :
    contents fs = (fs.map (·.content)).flatten := List.flatMap_def

namespace Aligned
variable {b : Splitter} {fs : List Fragment} {taken unread : List Char}

theorem start (budget : ℕ) (s : List Char) : Aligned { budget } [] s := by
  constructor
  · simp [carriedOver,contents,openTags,tokens,openingTags]
  · rfl
  · intro before after h
    obtain ⟨rfl,rfl⟩ := List.nil_eq_append_iff.mp h
    exact Clean.nil_left _
  · simp

theorem clean_contents (h : Aligned b fs unread) :
    Clean (contents fs) (b.buffer.drop b.carried ++ unread) := by
  have hs := h.seams (fs.map (·.content)) [] (by simp)
  rwa [← contents_eq_flatten] at hs

theorem append {token : List Char} (h : Aligned b fs (token ++ unread))
    (ha : Accounts b fs taken) : Aligned (b.append token) fs unread := by
  have hd : (b.append token).buffer.drop (b.append token).carried =
      b.buffer.drop b.carried ++ token := List.drop_append_of_le_length ha.carried_le
  refine ⟨h.carried,h.messages,?_,?_⟩
  · intro before after hs
    have hc := h.seams before after hs
    rwa [hd,List.append_assoc]
  · intro safe hs hlt
    have hle := ha.safe_le safe hs
    have hc := h.safe safe hs hlt
    have hk : safe - b.carried ≤ (b.buffer.drop b.carried).length := by simp; omega
    rw [hd]
    change Clean (contents fs ++ (b.buffer.drop b.carried ++ token).take (safe - b.carried))
      ((b.buffer.drop b.carried ++ token).drop (safe - b.carried) ++ unread)
    rwa [List.take_append_of_le_length hk,List.drop_append_of_le_length hk,List.append_assoc]

/-- A forced cut is clean in the whole markup, since it is so in the buffer, and the buffer lies
between clean boundaries. -/
theorem clean_forced (h : Aligned b fs unread) (ha : Accounts b fs taken)
    (hv : Clean taken unread) {p : ℕ} (hp : b.carried ≤ p)
    (hc : Clean (b.buffer.take p) (b.buffer.drop p)) :
    Clean (contents fs ++ (b.buffer.drop b.carried).take (p - b.carried))
      ((b.buffer.drop b.carried).drop (p - b.carried) ++ unread) := by
  have ht : (b.buffer.drop b.carried).take (p - b.carried) <:+ b.buffer.take p := by
    rw [← List.drop_take]
    exact List.drop_suffix ..
  have hd : (b.buffer.drop b.carried).drop (p - b.carried) = b.buffer.drop p := by
    rw [List.drop_drop]
    congr 1
    omega
  have htd : (b.buffer.drop b.carried).take (p - b.carried) ++ b.buffer.drop p =
      b.buffer.drop b.carried := by
    rw [← hd,List.take_append_drop]
  rw [hd]
  have hb : Clean (contents fs ++ (b.buffer.drop b.carried).take (p - b.carried))
      (b.buffer.drop p) := by
    refine Clean.append_left ?_ (hc.mono ht (List.prefix_refl _))
    rw [htd]
    exact h.clean_contents.mono (List.suffix_refl _) (List.prefix_append _ _)
  refine Clean.append_right hb ?_
  rw [List.append_assoc,htd,ha.contents]
  exact hv

/-- A clean cut behind the carried tags keeps the splitter aligned. -/
theorem cutAt (h : Aligned b fs unread) (ha : Accounts b fs taken) {p : ℕ} (hp : b.carried ≤ p)
    (hc : Clean (contents fs ++ (b.buffer.drop b.carried).take (p - b.carried))
      ((b.buffer.drop b.carried).drop (p - b.carried) ++ unread)) :
    Aligned (b.cutAt p) (fs ++ [b.fragment p]) unread := by
  have hf := b.fragment_content p
  have hd := Splitter.cutAt_rest hp
  have htext : (b.fragment p).text =
      openingTags (openTags (contents fs)) ++ (b.fragment p).content := by
    rw [Fragment.text,Splitter.fragment,ha.carried,h.carried]
  have hclean : Clean (contents fs) (b.fragment p).content := by
    rw [hf]
    refine h.clean_contents.mono (List.suffix_refl _) ?_
    exact (List.take_prefix ..).trans (List.prefix_append _ _)
  constructor
  · have ho := openTags_reopened hclean.tag
    have hl : carriedOver (fs ++ [b.fragment p]) =
        openingTags (openTags (b.fragment p).text) := by simp [carriedOver]
    rw [hl,htext,ho]
    simp [contents]
  · rw [List.map_append,List.map_append,messages_append,h.messages]
    simp [Markup.messages,htext,contents_eq_flatten]
  · intro before after hs
    rw [hd]
    rw [List.map_append,List.map_singleton] at hs
    rcases List.eq_nil_or_concat after with rfl | ⟨after,w,rfl⟩
    · have hb : before.flatten =
          contents fs ++ (b.buffer.drop b.carried).take (p - b.carried) := by
        rw [← hf,contents_eq_flatten,← List.append_nil before,← hs]
        simp
      rw [hb]
      exact hc
    · rw [List.concat_eq_append] at hs ⊢
      rw [← List.append_assoc] at hs
      obtain ⟨hb,hw⟩ := List.append_inj' hs rfl
      have hs := h.seams before after hb
      rw [← (List.cons.inj hw).1,hf,List.flatten_append,List.flatten_singleton,List.append_assoc,
        ← List.append_assoc (List.take ..),List.take_append_drop]
      exact hs
  · simp

theorem shrink (h : Aligned b fs unread) (ha : Accounts b fs taken) (hv : Clean taken unread) :
    Aligned b.shrink (fs ++ b.shrinkCuts) unread := by
  fun_induction Splitter.shrinkCuts b generalizing fs with
  | case1 b ho ih =>
    have hp := Nat.le_of_lt (lt_forcedCut b.budget ho.2)
    have hc := h.clean_forced ha hv hp (clean_forcedCut b.buffer b.budget b.carried)
    rw [Splitter.shrink_of_overfull ho]
    simpa using ih (h.cutAt ha hp hc) (ha.cutAt hp)
  | case2 b ho =>
    rw [Splitter.shrink_of_not_overfull ho]
    simpa using h

/-- The first cut of a buffer falls on its safe place, or is forced. -/
theorem clean_cutPlace (h : Aligned b fs unread) (ha : Accounts b fs taken)
    (hv : Clean taken unread) (hb : b.carried < b.buffer.length) :
    Clean (contents fs ++ (b.buffer.drop b.carried).take (b.cutPlace b.buffer - b.carried))
      ((b.buffer.drop b.carried).drop (b.cutPlace b.buffer - b.carried) ++ unread) := by
  have hforced := h.clean_forced ha hv (Nat.le_of_lt (lt_forcedCut b.budget hb))
    (clean_forcedCut b.buffer b.budget b.carried)
  unfold Splitter.cutPlace
  split
  · next safe hs =>
    split_ifs with hlt
    · exact h.safe safe hs hlt
    · exact hforced
  · exact hforced

theorem place {token : List Char} (h : Aligned b fs (token ++ unread)) (ha : Accounts b fs taken)
    (ht : token ≠ []) (hv : Clean (taken ++ token) unread) :
    Aligned (b.place token) (fs ++ b.addCuts token) unread := by
  rw [Splitter.place_eq,Splitter.addCuts]
  have h' := h.append ha
  have ha' := ha.append token
  split_ifs with hb
  · have hlt := Splitter.carried_lt_append ha ht
    have hp := Nat.le_of_lt (Splitter.lt_cutPlace hlt)
    have hc := h'.clean_cutPlace ha' hv hlt
    simpa using (h'.cutAt ha' hp hc).shrink (ha'.cutAt hp) hv
  · simpa using h'

theorem markSafe (h : Aligned b fs unread) (ha : Accounts b fs taken) (hv : Clean taken unread) :
    Aligned { b with lastSafe := some b.buffer.length } fs unread := by
  refine ⟨h.carried,h.messages,h.seams,?_⟩
  intro safe hs _
  obtain rfl := Option.some.inj hs
  have hk : (b.buffer.drop b.carried).length ≤ b.buffer.length - b.carried := by simp
  change Clean (contents fs ++ (b.buffer.drop b.carried).take (b.buffer.length - b.carried))
    ((b.buffer.drop b.carried).drop (b.buffer.length - b.carried) ++ unread)
  rw [List.take_of_length_le hk,List.drop_of_length_le hk,ha.contents,List.nil_append]
  exact hv

theorem add {token : List Char} (h : Aligned b fs (token ++ unread)) (ha : Accounts b fs taken)
    (ht : token ≠ []) (hv : Clean (taken ++ token) unread) :
    Aligned (b.add token) (fs ++ b.addCuts token) unread := by
  have hp := h.place ha ht hv
  unfold Splitter.add
  dsimp only
  split_ifs
  · exact hp.markSafe (Splitter.accounts_place ha ht) hv
  · exact hp

end Aligned

/-! ## The whole markup -/

theorem aligned_run (budget : ℕ) {s : List Char} {before after : List (List Char)}
    (h : tokens s = before ++ after) :
    Aligned (before.foldl Splitter.add { budget }) (Splitter.cuts { budget } before)
      after.flatten := by
  induction before using List.reverseRecOn generalizing after with
  | nil => exact Aligned.start budget after.flatten
  | append_singleton before t ih =>
    have hne : ∀ u ∈ before ++ [t], u ≠ [] := fun u hu =>
      ne_nil_of_mem_tokens (s := s) (h ▸ List.mem_append_left after hu)
    have ha := Splitter.accounts_run budget fun u hu => hne u (List.mem_append_left [t] hu)
    have ht : tokens s = before ++ t :: after := by simpa using h
    have hl := ih ht
    have hv := clean_tokens h
    rw [List.foldl_append,List.foldl_cons,List.foldl_nil,Splitter.cuts_concat]
    rw [List.flatten_append,List.flatten_singleton] at hv
    exact hl.add ha (hne t (by simp)) hv

theorem balance_nil : balance [] = [] := by
  simp [balance,openTags,tokens,closingTags]

theorem finish_eq (b : Splitter) :
    b.finish = b.done.reverse ++ [balance b.buffer].filter hasVisibleContent := by
  unfold Splitter.finish
  split_ifs with h
  · have hv : hasVisibleContent [] = false := by
      simp [hasVisibleContent,stripTags,tokens,dropBlankReferences,dropBlankReferencesFrom]
    rw [List.isEmpty_iff.mp h,balance_nil]
    simp [hv]
  · unfold Splitter.emit
    dsimp only
    split_ifs with hv <;> simp [hv]

theorem openTags_of_mem_messages {before m : List Char} {pieces : List (List Char)}
    (h : m ∈ messages before pieces) : openTags m = [] := by
  induction pieces generalizing before with
  | nil => simp [messages] at h
  | cons piece pieces ih =>
    rcases List.mem_cons.mp h with rfl | h
    · exact openTags_balance _
    · exact ih h

/-- The pieces of a markup: what was cut off of it, and what was left in the buffer at the end. -/
def pieces (budget : ℕ) (s : List Char) : List (List Char) :=
  let b := (tokens s).foldl Splitter.add { budget }
  (Splitter.cuts { budget } (tokens s)).map (·.content) ++ [b.buffer.drop b.carried]

theorem accounts_tokens (budget : ℕ) (s : List Char) :
    Accounts ((tokens s).foldl Splitter.add { budget }) (Splitter.cuts { budget } (tokens s)) s := by
  have h := Splitter.accounts_run budget fun u hu => ne_nil_of_mem_tokens (s := s) hu
  rwa [flatten_tokens] at h

theorem flatten_pieces (budget : ℕ) (s : List Char) : (pieces budget s).flatten = s := by
  have h := (accounts_tokens budget s).contents
  rw [contents_eq_flatten] at h
  simpa [pieces] using h

theorem clean_pieces (budget : ℕ) (s : List Char) {before after : List (List Char)}
    (h : pieces budget s = before ++ after) : Clean before.flatten after.flatten := by
  have hl := aligned_run budget (List.append_nil (tokens s)).symm
  rcases List.eq_nil_or_concat after with rfl | ⟨after,w,rfl⟩
  · exact Clean.nil_right _
  · rw [List.concat_eq_append] at h ⊢
    rw [← List.append_assoc] at h
    obtain ⟨hb,hw⟩ := List.append_inj' h rfl
    have hs := hl.seams before after hb
    rw [← (List.cons.inj hw).1]
    simpa using hs

theorem split_eq_messages (budget : ℕ) (s : List Char) :
    split budget s = (messages [] (pieces budget s)).filter hasVisibleContent := by
  have ha := accounts_tokens budget s
  have hl := aligned_run budget (List.append_nil (tokens s)).symm
  have hb := List.take_append_drop
    ((tokens s).foldl Splitter.add { budget }).carried
    ((tokens s).foldl Splitter.add { budget }).buffer
  rw [ha.carried,hl.carried,contents_eq_flatten] at hb
  rw [split,finish_eq,ha.messages,hl.messages,pieces,messages_append,List.filter_append]
  simp only [messages,List.nil_append,hb]

/-- A markup has a row of pieces, without loss and with clean boundaries, such that its messages are
those of the pieces that show anything. No message leaves a tag open. -/
theorem split_partition (budget : ℕ) (s : List Char) :
    ∃ pieces : List (List Char), pieces.flatten = s ∧
      (∀ before after, pieces = before ++ after → Clean before.flatten after.flatten) ∧
      split budget s = (messages [] pieces).filter hasVisibleContent ∧
      ∀ message ∈ split budget s, openTags message = [] := by
  have hs := split_eq_messages budget s
  refine ⟨pieces budget s,flatten_pieces budget s,fun _ _ h => clean_pieces budget s h,hs,?_⟩
  intro message hm
  rw [hs] at hm
  exact openTags_of_mem_messages (List.mem_filter.mp hm).1

end ChatMarkup.Markup
