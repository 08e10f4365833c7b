import ChatMarkup.Proofs.Markup.Visible

/-!
# The budget of a message

A message is a fragment with its tags closed, and the closing tags may take it over the budget. The
fragment itself, with the tags that are opened again at its start, fits the budget unless it had to
take one piece that cannot be cut: a single tag, a single character reference, or a whole token
where the reopened tags leave no room at all.

A safe place that lies behind the carried tags fits, since the buffer did when it was marked. A
forced cut is moved over the budget only to the end of the piece that begins where the carried tags
end: these hold whole tags, so no tag or reference begins in them and goes on.
-/
namespace ChatMarkup.Markup
open Text

/-! ## Where a forced cut falls -/

section
variable {kind : List Char → Prop} {x y a t r : List Char} (limit : ℕ)

/-- A piece that begins no later than a boundary, and does not lie over it, ends before it or begins
at it. -/
theorem ends_or_begins (hc : ¬ Straddles kind x y) (ht : kind t) (he : x ++ y = a ++ (t ++ r))
    (ha : a.length ≤ x.length) : a.length + t.length ≤ x.length ∨ a = x ∧ y = t ++ r := by
  obtain ⟨u,rfl⟩ := List.prefix_of_prefix_length_le ⟨_,he.symm⟩ (List.prefix_append x y) ha
  rw [List.append_assoc] at he
  rcases List.append_eq_append_iff.mp (List.append_cancel_left he) with ⟨v,rfl,rfl⟩ | ⟨w,rfl,-⟩
  · by_cases hu : u = []
    · exact .inr ⟨by simp [hu],by simp [hu]⟩
    · by_cases hv : v = []
      · exact .inl (by simp [hv])
      · exact absurd ⟨u,v,hu,hv,List.suffix_append a u,List.prefix_append v r,ht⟩ hc
  · exact .inl (by simp)

theorem IsTagToken.firstIndex? (ht : IsTagToken t) (r : List Char) :
    firstIndex? (· == '>') (t ++ r) = some (t.length - 1) := by
  have hd := ht.closer_notMem_dropLast
  obtain ⟨body,-,rfl⟩ := ht
  rw [← List.cons_append,List.dropLast_concat] at hd
  have hn : ('<' :: body).findIdx? (· == '>') = none := by
    rw [List.findIdx?_eq_none_iff]
    intro c hm
    have hne : c ≠ '>' := fun e => hd (e ▸ hm)
    simpa using hne
  rw [Text.firstIndex?,← List.cons_append,List.append_assoc,List.findIdx?_append,hn]
  simp [List.findIdx?_cons]

/-- Where brackets close, one that is not closed yet begins a tag that goes on. -/
theorem BracketsClose.exists_longer_tag {b : List Char} (h : BracketsClose x)
    (hs : '<' :: b ++ y <:+ x) (hg : '>' ∉ b) :
    ∃ t r, '<' :: b ++ y = t ++ r ∧ IsTagToken t ∧ b.length + 1 < t.length := by
  obtain ⟨t,r,he,ht⟩ := h.exists_tag (List.cons_append ▸ hs)
  rw [← List.cons_append] at he
  refine ⟨t,r,he,ht,?_⟩
  by_contra hle
  have hp : t <+: '<' :: b := List.prefix_of_prefix_length_le (he ▸ List.prefix_append t r)
    (List.prefix_append _ _) (by rw [List.length_cons]; omega)
  have hm := hp.subset (List.mem_of_getLast? ht.getLast?)
  exact hg (by simpa using hm)

/-- A cut near the limit stays behind the floor and within the limit, or ends a tag or reference
that begins at the floor. Where it does not get behind the floor, neither does the limit. -/
theorem nearbyCut_cases (hc : Clean x y) (hb : BracketsClose (x ++ y)) (hy : y ≠ []) :
    (nearbyCut (x ++ y) limit x.length ≤ x.length ∧ limit ≤ x.length) ∨
      (x.length < nearbyCut (x ++ y) limit x.length ∧
        nearbyCut (x ++ y) limit x.length ≤ limit) ∨
      ∃ t r, y = t ++ r ∧ nearbyCut (x ++ y) limit x.length = x.length + t.length ∧
        (IsTagToken t ∨ IsReference t) := by
  have hlen : x.length < (x ++ y).length := by
    have := List.length_pos_iff.mpr hy
    simp
    omega
  have hs := List.take_append_drop (min limit (x ++ y).length) (x ++ y)
  have hl : ((x ++ y).take (min limit (x ++ y).length)).length = min limit (x ++ y).length := by
    simp
  have hplace := nearbyPlace_nearbyCut (x ++ y) limit x.length
  generalize nearbyCut (x ++ y) limit x.length = p at hplace ⊢
  cases hplace with
  | atLimit => omega
  | beforeBracket he hf =>
    rw [he,List.length_append] at hl
    exact .inr (.inl ⟨hf,by omega⟩)
  | afterBracket he hg hf hi =>
    rw [he] at hs hl
    rw [List.append_assoc] at hs
    rw [List.length_append,List.length_cons] at hl
    obtain ⟨t,r,htr,ht,hover⟩ := hb.exists_longer_tag ⟨_,hs⟩ hg
    rw [htr,ht.firstIndex? r] at hi
    obtain rfl := Option.some.inj hi
    rw [htr] at hs
    rcases ends_or_begins hc.tag ht hs.symm hf with hin | ⟨rfl,rfl⟩
    · exact .inl ⟨by omega,by omega⟩
    · exact .inr (.inr ⟨t,r,rfl,by omega,.inl ht⟩)
  | atEnd he hg hi =>
    rw [he,List.append_assoc] at hs
    obtain ⟨t,r,htr,ht,-⟩ := hb.exists_longer_tag ⟨_,hs⟩ hg
    rw [htr,ht.firstIndex? r] at hi
    cases hi
  | beforeReference _ he _ _ _ hf =>
    rw [he,List.length_append] at hl
    exact .inr (.inl ⟨hf,by omega⟩)
  | afterReference _ he htr ht hp hf =>
    have := hp.length_le
    rw [he,List.append_assoc,htr] at hs
    rw [he,List.length_append] at hl
    rcases ends_or_begins hc.reference ht hs.symm hf with hin | ⟨rfl,rfl⟩
    · exact .inl ⟨hin,by omega⟩
    · exact .inr (.inr ⟨_,_,rfl,rfl,.inr ht⟩)

/-- A forced cut stays within the limit, or takes exactly one tag or reference, or one token where
the floor leaves nothing of the limit. -/
theorem forcedCut_cases (hc : Clean x y) (hb : BracketsClose (x ++ y)) (hy : y ≠ []) :
    forcedCut (x ++ y) limit x.length ≤ limit ∨
      ∃ t r, y = t ++ r ∧ forcedCut (x ++ y) limit x.length = x.length + t.length ∧
        (IsTagToken t ∨ IsReference t ∨
          limit ≤ x.length ∧ ∃ c rest, y = c :: rest ∧ t = (firstToken c rest).1) := by
  unfold forcedCut
  dsimp only
  rcases nearbyCut_cases limit hc hb hy with ⟨hle,hlim⟩ | ⟨hlt,hle⟩ | ⟨t,r,rfl,hp,ht⟩
  · obtain ⟨c,rest,rfl⟩ := List.exists_cons_of_ne_nil hy
    rw [if_pos hle,List.drop_left]
    exact .inr ⟨_,_,(firstToken_append c rest).symm,rfl,.inr (.inr ⟨hlim,c,rest,rfl,rfl⟩)⟩
  · rw [if_neg (by omega)]
    exact .inl hle
  · have hpos : 0 < t.length := by
      rcases ht with ⟨body,-,rfl⟩ | ⟨sign,name,-,-,-,rfl⟩ <;> simp
    rw [if_neg (by omega)]
    exact .inr ⟨t,r,rfl,hp,ht.imp_right .inl⟩

end

/-! ## Tokens of the part that is left -/

def EndsInTag (x : List Char) : Prop := ∃ a t, x = a ++ t ∧ IsTagToken t

/-- The place between two tokens of a markup: what lies before it ends in a tag, or a run of text
ends here. -/
structure Seam (taken unread : List Char) : Prop where
  clean : Clean taken unread
  ends : EndsInTag taken ∨ Stops unread
  brackets : BracketsClose (taken ++ unread)

theorem seam_of_tokens {s : List Char} (hb : BracketsClose s) {before after : List (List Char)}
    (h : tokens s = before ++ after) (hn : before ≠ []) : Seam before.flatten after.flatten := by
  refine ⟨clean_tokens h,?_,by rwa [← List.flatten_append,← h,flatten_tokens]⟩
  clear hb
  fun_induction tokens s generalizing before with
  | case1 => exact absurd (List.append_eq_nil_iff.mp h.symm).1 hn
  | case2 c rest ih =>
    obtain ⟨t,before,rfl⟩ := List.exists_cons_of_ne_nil hn
    obtain ⟨rfl,hr⟩ := List.cons.inj (h.trans (List.cons_append ..))
    by_cases he : before = []
    · subst he
      have ha : after.flatten = (firstToken c rest).2 := by
        rw [← flatten_tokens (firstToken c rest).2,hr]
        rfl
      rw [ha]
      exact (firstToken_ends c rest).imp_left fun ht => ⟨[],_,by simp,ht⟩
    · refine (ih hr he).imp_left ?_
      rintro ⟨a,t,ha,ht⟩
      exact ⟨(firstToken c rest).1 ++ a,t,by simp [ha],ht⟩

/-- A token that is read before a seam is a token of the whole. -/
theorem firstToken_before {c : Char} {rest z : List Char} (hb : BracketsClose (c :: rest))
    (hz : EndsInTag (c :: rest) ∨ Stops z) :
    firstToken c (rest ++ z) = ((firstToken c rest).1,(firstToken c rest).2 ++ z) := by
  by_cases hc : c = '<'
  · subst hc
    obtain ⟨_,r,he,body,hbody,rfl⟩ := hb.exists_tag (List.suffix_refl _)
    obtain rfl : rest = body ++ '>' :: r := by simpa using he
    have ht := firstToken_tag hbody (r ++ z)
    rw [List.append_assoc,List.cons_append,firstToken_tag hbody r,ht]
  · have hw : ∀ d ∈ rest.takeWhile (· != '<'), d ≠ '<' := fun d hd => by
      simpa using List.mem_takeWhile_imp hd
    have hs : rest.takeWhile (· != '<') ++ rest.dropWhile (· != '<') = rest :=
      List.takeWhile_append_dropWhile
    have hr := stops_dropWhile rest
    generalize rest.takeWhile (· != '<') = w at hw hs
    generalize rest.dropWhile (· != '<') = r at hs hr
    subst hs
    have hrz : Stops (r ++ z) := by
      cases r with
      | cons d r => exact hr
      | nil =>
        refine hz.resolve_left ?_
        rintro ⟨a,t,he,ht⟩
        have hm : '<' ∈ c :: (w ++ []) := by
          rw [he]
          exact List.mem_append_right a (List.mem_of_head? ht.head?)
        rcases List.mem_cons.mp hm with e | hm
        · exact hc e.symm
        · exact hw '<' (by simpa using hm) rfl
    rw [List.append_assoc,firstToken_text hc hw hrz,firstToken_text hc hw hr]

/-- The end of a text that ends in a tag ends in this tag, unless it begins inside of it. -/
theorem EndsInTag.right {x y : List Char} (h : EndsInTag (x ++ y)) (hc : Clean x y)
    (hy : y ≠ []) : EndsInTag y := by
  obtain ⟨a,t,he,ht⟩ := h
  rcases List.append_eq_append_iff.mp he with ⟨u,-,rfl⟩ | ⟨u,rfl,rfl⟩
  · exact ⟨u,t,rfl,ht⟩
  · by_cases hu : u = []
    · exact ⟨[],y,rfl,by simpa [hu] using ht⟩
    · exact absurd ⟨u,y,hu,hy,List.suffix_append a u,List.prefix_refl y,ht⟩ hc.tag

/-- What stands between a clean place and a seam ends as the whole text before the seam does. -/
theorem Seam.right {x y z : List Char} (h : Seam (x ++ y) z) (hc : Clean x (y ++ z)) (hy : y ≠ []) :
    BracketsClose y ∧ (EndsInTag y ∨ Stops z) := by
  have hb := h.brackets
  rw [List.append_assoc] at hb
  refine ⟨hb.right.left (h.clean.mono (List.suffix_append x y) (List.prefix_refl z)).tag,?_⟩
  exact h.ends.imp_left fun ht =>
    ht.right (hc.mono (List.suffix_refl x) (List.prefix_append y z)) hy

theorem bracketsClose_openingTags {ts : List OpenTag} (h : ∀ t ∈ ts, t.Proper) :
    BracketsClose (openingTags ts) := by
  rw [bracketsClose_iff,← List.append_nil (openingTags ts),stripTags_openingTags h]
  simp [stripTags,tokens]

/-! ## Fragments of a run -/

theorem concat_eq_append_cons {α : Type} {xs before after : List α} {x y : α}
    (h : xs ++ [x] = before ++ y :: after) :
    (after = [] ∧ before = xs ∧ y = x) ∨
      ∃ rest, after = rest ++ [x] ∧ xs = before ++ y :: rest := by
  rcases List.eq_nil_or_concat after with rfl | ⟨rest,z,rfl⟩
  · obtain ⟨hb,hy⟩ := List.append_inj' h rfl
    exact .inl ⟨rfl,hb.symm,(List.singleton_inj.mp hy).symm⟩
  · rw [List.concat_eq_append,← List.cons_append,← List.append_assoc] at h
    obtain ⟨hb,hz⟩ := List.append_inj' h rfl
    exact .inr ⟨rest,by rw [List.concat_eq_append,List.singleton_inj.mp hz],hb⟩

/-- What a piece of a markup may be, between the texts before and after it: with the tags opened
again before it it fits the budget, or it is a single tag, a single reference, or a single token
where those tags alone reach the budget. -/
inductive WithinBudget (budget : ℕ) (before piece after : List Char) : Prop
  | fits : (openingTags (openTags before) ++ piece).length ≤ budget →
      WithinBudget budget before piece after
  | tag : IsTagToken piece → WithinBudget budget before piece after
  | reference : IsReference piece → WithinBudget budget before piece after
  | token : budget ≤ (openingTags (openTags before)).length →
      (tokens (piece ++ after)).head? = some piece → WithinBudget budget before piece after

/-- The fragments of a splitter keep to its budget, and so does its safe place. -/
structure Budgeted (b : Splitter) (fs : List Fragment) (unread : List Char) : Prop where
  safe : ∀ safe, b.lastSafe = some safe → b.carried < safe → safe ≤ b.budget
  fragments : ∀ before f after, fs = before ++ f :: after →
    WithinBudget b.budget (contents before) f.content
      (contents after ++ (b.buffer.drop b.carried ++ unread))

namespace Budgeted
variable {b : Splitter} {fs : List Fragment} {taken unread : List Char}

theorem start (budget : ℕ) (s : List Char) : Budgeted { budget } [] s := by
  constructor <;> simp

theorem append {token : List Char} (h : Budgeted b fs (token ++ unread))
    (ha : Accounts b fs taken) : Budgeted (b.append token) fs unread := by
  have hd : (b.append token).buffer.drop (b.append token).carried =
      b.buffer.drop b.carried ++ token := List.drop_append_of_le_length ha.carried_le
  refine ⟨h.safe,fun before f after hf => ?_⟩
  rw [hd,List.append_assoc]
  exact h.fragments before f after hf

/-- A cut that keeps to the budget. -/
theorem cutAt (h : Budgeted b fs unread) {p : ℕ} (hp : b.carried ≤ p)
    (hw : WithinBudget b.budget (contents fs) (b.fragment p).content
      ((b.buffer.drop b.carried).drop (p - b.carried) ++ unread)) :
    Budgeted (b.cutAt p) (fs ++ [b.fragment p]) unread := by
  constructor
  · simp
  · intro before f after hf
    rw [Splitter.cutAt_budget,Splitter.cutAt_rest hp]
    rcases concat_eq_append_cons hf with ⟨rfl,rfl,rfl⟩ | ⟨after,rfl,hb⟩
    · exact hw
    · have hs := h.fragments before f after hb
      have hc : contents (after ++ [b.fragment p]) =
          contents after ++ (b.buffer.drop b.carried).take (p - b.carried) := by
        simp [contents,b.fragment_content]
      rw [hc,List.append_assoc,← List.append_assoc (List.take ..),List.take_append_drop]
      exact hs

/-- A cut within the budget leaves a fragment that fits. -/
theorem fits_cut (hl : Aligned b fs unread) (ha : Accounts b fs taken) {p : ℕ}
    (hp : b.carried ≤ p) (hb : p ≤ b.budget) (after : List Char) :
    WithinBudget b.budget (contents fs) (b.fragment p).content after := by
  refine .fits ?_
  have ht := Splitter.fragment_text hp
  rw [Fragment.text,Splitter.fragment,ha.carried,hl.carried] at ht
  rw [Splitter.fragment,ht,List.length_take]
  omega

/-- A forced cut keeps to the budget. -/
theorem forced_cut (hl : Aligned b fs unread) (ha : Accounts b fs taken)
    (hs : Seam taken unread) (hb : b.carried < b.buffer.length) :
    WithinBudget b.budget (contents fs)
      (b.fragment (forcedCut b.buffer b.budget b.carried)).content
      ((b.buffer.drop b.carried).drop
        (forcedCut b.buffer b.budget b.carried - b.carried) ++ unread) := by
  have hlt := lt_forcedCut b.budget hb
  have hbuffer := List.take_append_drop b.carried b.buffer
  have hlen : (b.buffer.take b.carried).length = b.carried := by
    rw [List.length_take]
    omega
  have hcontent := b.fragment_content (forcedCut b.buffer b.budget b.carried)
  have hy : b.buffer.drop b.carried ≠ [] := by
    intro he
    have := List.drop_eq_nil_iff.mp he
    omega
  have hopened : b.buffer.take b.carried = openingTags (openTags (contents fs)) :=
    ha.carried.trans hl.carried
  obtain ⟨hb',hends⟩ := (ha.contents.symm ▸ hs).right hl.clean_contents hy
  have hx : BracketsClose (b.buffer.take b.carried) :=
    hopened ▸ bracketsClose_openingTags (openTags_proper _)
  have hxy : Clean (b.buffer.take b.carried) (b.buffer.drop b.carried) := by
    rw [hopened]
    exact clean_openingTags (openTags_proper _) _
  have hcases := forcedCut_cases b.budget hxy (hx.append hb' hxy.tag) hy
  rw [hbuffer,hlen] at hcases
  rcases hcases with hle | ⟨t,r,htr,hp,ht⟩
  · exact fits_cut hl ha (by omega) hle _
  · have hpt : forcedCut b.buffer b.budget b.carried - b.carried = t.length := by omega
    rw [hpt,htr,List.take_left] at hcontent
    rw [hcontent,hpt,htr,List.drop_left]
    rcases ht with ht | ht | ⟨hle,c,rest,hc,rfl⟩
    · exact .tag ht
    · exact .reference ht
    · rw [← hlen,hopened] at hle
      have hf := firstToken_before (hc ▸ hb') (hc ▸ hends)
      have hr : r = (firstToken c rest).2 := by
        rw [htr,← firstToken_append c rest] at hc
        exact List.append_cancel_left hc
      refine .token hle ?_
      rw [hr,← List.append_assoc,firstToken_append,List.cons_append,tokens_cons,hf]
      rfl

theorem shrink (h : Budgeted b fs unread) (hl : Aligned b fs unread) (ha : Accounts b fs taken)
    (hs : Seam taken unread) : Budgeted b.shrink (fs ++ b.shrinkCuts) unread := by
  fun_induction Splitter.shrinkCuts b generalizing fs with
  | case1 b ho ih =>
    have hp := Nat.le_of_lt (lt_forcedCut b.budget ho.2)
    have hc := hl.clean_forced ha hs.clean hp (clean_forcedCut b.buffer b.budget b.carried)
    rw [Splitter.shrink_of_overfull ho]
    simpa using ih (h.cutAt hp (forced_cut hl ha hs ho.2)) (hl.cutAt ha hp hc) (ha.cutAt hp)
  | case2 b ho =>
    rw [Splitter.shrink_of_not_overfull ho]
    simpa using h

/-- The first cut of a buffer keeps to the budget, on its safe place as well as elsewhere. -/
theorem first_cut (h : Budgeted b fs unread) (hl : Aligned b fs unread)
    (ha : Accounts b fs taken) (hs : Seam taken unread) (hb : b.carried < b.buffer.length) :
    WithinBudget b.budget (contents fs) (b.fragment (b.cutPlace b.buffer)).content
      ((b.buffer.drop b.carried).drop (b.cutPlace b.buffer - b.carried) ++ unread) := by
  have hforced := forced_cut hl ha hs hb
  unfold Splitter.cutPlace
  split
  · next safe hsafe =>
    split_ifs with hlt
    · exact fits_cut hl ha (Nat.le_of_lt hlt) (h.safe safe hsafe hlt) _
    · exact hforced
  · exact hforced

theorem place {token : List Char} (h : Budgeted b fs (token ++ unread))
    (hl : Aligned b fs (token ++ unread)) (ha : Accounts b fs taken) (ht : token ≠ [])
    (hs : Seam (taken ++ token) unread) :
    Budgeted (b.place token) (fs ++ b.addCuts token) unread := by
  rw [Splitter.place_eq,Splitter.addCuts]
  have h' := h.append ha
  have hl' := hl.append ha
  have ha' := ha.append token
  split_ifs with hb
  · have hlt := Splitter.carried_lt_append ha ht
    have hp := Nat.le_of_lt (Splitter.lt_cutPlace hlt)
    have hc := hl'.clean_cutPlace ha' hs.clean hlt
    have hw := h'.first_cut hl' ha' hs hlt
    simpa using (h'.cutAt hp hw).shrink (hl'.cutAt ha' hp hc) (ha'.cutAt hp) hs
  · simpa using h'

theorem add {token : List Char} (h : Budgeted b fs (token ++ unread))
    (hl : Aligned b fs (token ++ unread)) (ha : Accounts b fs taken) (ht : token ≠ [])
    (hs : Seam (taken ++ token) unread) :
    Budgeted (b.add token) (fs ++ b.addCuts token) unread := by
  have hp := h.place hl ha ht hs
  have hf := b.place_fits token
  unfold Splitter.add
  dsimp only
  split_ifs
  · refine ⟨fun safe hsafe hlt => ?_,hp.fragments⟩
    obtain rfl := Option.some.inj hsafe
    by_contra hover
    exact hf ⟨Nat.lt_of_not_le hover,hlt⟩
  · exact hp

end Budgeted

theorem budgeted_run (budget : ℕ) {s : List Char} (hb : BracketsClose s)
    {before after : List (List Char)} (h : tokens s = before ++ after) :
    Budgeted (before.foldl Splitter.add { budget }) (Splitter.cuts { budget } before)
      after.flatten := by
  induction before using List.reverseRecOn generalizing after with
  | nil => exact Budgeted.start budget after.flatten
  | append_singleton before t ih =>
    have hne : ∀ u ∈ before ++ [t], u ≠ [] := fun u hu =>
      ne_nil_of_mem_tokens (s := s) (h ▸ List.mem_append_left after hu)
    have ha := Splitter.accounts_run budget fun u hu => hne u (List.mem_append_left [t] hu)
    have ht : tokens s = before ++ t :: after := by simpa using h
    have hs := seam_of_tokens hb h (by simp)
    rw [List.foldl_append,List.foldl_cons,List.foldl_nil,Splitter.cuts_concat]
    rw [List.flatten_append,List.flatten_singleton] at hs
    exact (ih ht).add (aligned_run budget ht) ha (hne t (by simp)) hs

/-! ## Messages -/

/-- Every piece of a markup that is not empty keeps to the budget. -/
theorem withinBudget_pieces (budget : ℕ) {s : List Char} (hb : BracketsClose s)
    {before after : List (List Char)} {piece : List Char}
    (h : pieces budget s = before ++ piece :: after) (hn : piece ≠ []) :
    WithinBudget budget before.flatten piece after.flatten := by
  have ht := (List.append_nil (tokens s)).symm
  have ha := accounts_tokens budget s
  have hl := aligned_run budget ht
  have hw := budgeted_run budget hb ht
  have hfits := Splitter.foldl_add_fits budget (tokens s)
  have hbudget : ((tokens s).foldl Splitter.add { budget }).budget = budget :=
    Splitter.foldl_add_budget _ _
  unfold pieces at h
  generalize (tokens s).foldl Splitter.add { budget } = b at ha hl hw hfits hbudget h
  generalize Splitter.cuts { budget } (tokens s) = fs at ha hl hw h
  dsimp only at h
  rcases concat_eq_append_cons h with ⟨rfl,rfl,rfl⟩ | ⟨after,rfl,hf⟩
  · -- the last piece is what is left in the buffer, and this fits as it holds more than tags
    refine .fits ?_
    rw [← contents_eq_flatten,← hl.carried,← ha.carried,List.take_append_drop]
    by_contra hover
    have hlt : b.carried < b.buffer.length := by
      by_contra hge
      exact hn (List.drop_eq_nil_of_le (Nat.le_of_not_lt hge))
    exact hfits ⟨by omega,hlt⟩
  · obtain ⟨fs₁,fs',rfl,rfl,hf'⟩ := List.map_eq_append_iff.mp hf
    obtain ⟨f,fs₂,rfl,rfl,rfl⟩ := List.map_eq_cons_iff.mp hf'
    have hs := hw.fragments fs₁ f fs₂ rfl
    rw [hbudget] at hs
    rw [List.flatten_append,List.flatten_singleton,← contents_eq_flatten,← contents_eq_flatten]
    simpa using hs

/-- Each message is the message of some piece. -/
theorem exists_piece_of_mem_messages {before m : List Char} {pieces : List (List Char)}
    (h : m ∈ messages before pieces) :
    ∃ xs piece ys, pieces = xs ++ piece :: ys ∧
      m = balance (openingTags (openTags (before ++ xs.flatten)) ++ piece) := by
  induction pieces generalizing before with
  | nil => cases h
  | cons piece pieces ih =>
    rcases List.mem_cons.mp h with rfl | h
    · exact ⟨[],piece,pieces,rfl,by simp⟩
    · obtain ⟨xs,p,ys,rfl,rfl⟩ := ih h
      exact ⟨piece :: xs,p,ys,rfl,by simp⟩

theorem Accounts.buffer_of_nil {b : Splitter} {taken : List Char} (h : Accounts b [] taken) :
    b.buffer = taken := by
  have hb := List.take_append_drop b.carried b.buffer
  rw [h.carried] at hb
  exact hb.symm.trans h.contents

/-- Tokens that fit the budget together are never cut. -/
theorem cuts_eq_nil {budget : ℕ} {ts : List (List Char)} (ht : ∀ t ∈ ts, t ≠ [])
    (h : ts.flatten.length ≤ budget) : Splitter.cuts { budget } ts = [] := by
  induction ts using List.reverseRecOn with
  | nil => rfl
  | append_singleton ts t ih =>
    have hts : ∀ u ∈ ts, u ≠ [] := fun u hu => ht u (by simp [hu])
    rw [List.flatten_append,List.flatten_singleton] at h
    have hn := ih hts (by rw [List.length_append] at h; omega)
    have ha := Splitter.accounts_run budget hts
    rw [hn] at ha
    have hb : (ts.foldl Splitter.add { budget }).budget = budget := Splitter.foldl_add_budget _ ts
    rw [Splitter.cuts_concat,hn,List.nil_append,Splitter.addCuts,Splitter.append,
      ha.buffer_of_nil]
    exact if_neg (by dsimp only; omega)

/-- A markup within the budget is its own only piece. -/
theorem pieces_of_length_le {budget : ℕ} {s : List Char} (h : s.length ≤ budget) :
    pieces budget s = [s] := by
  have hc : Splitter.cuts { budget } (tokens s) = [] :=
    cuts_eq_nil (fun _ => ne_nil_of_mem_tokens) (by rwa [flatten_tokens])
  have hf := flatten_pieces budget s
  unfold pieces at hf ⊢
  dsimp only at hf ⊢
  rw [hc] at hf ⊢
  simpa using hf

/-- A markup whose brackets close is split into pieces, in order and without loss. Each message is
that of a piece: the tags open before it opened again, the piece, and the tags closed that are open
at the end. Up to there it keeps to the budget, apart from the pieces that cannot be cut. A markup
within the budget is one message, or none if it shows nothing. -/
theorem split_within_budget {s : List Char} (h : BracketsClose s) (budget : ℕ) :
    (∃ pieces : List (List Char), pieces.flatten = s ∧
      split budget s = (messages [] pieces).filter hasVisibleContent ∧
      ∀ message ∈ split budget s, ∃ before piece after, pieces = before ++ piece :: after ∧
        message = balance (openingTags (openTags before.flatten) ++ piece) ∧
        WithinBudget budget before.flatten piece after.flatten) ∧
      (s.length ≤ budget → split budget s = [balance s].filter hasVisibleContent) := by
  have hs := split_eq_messages budget s
  refine ⟨⟨pieces budget s,flatten_pieces budget s,hs,?_⟩,fun hl => ?_⟩
  · intro message hm
    rw [hs] at hm
    obtain ⟨hm,hv⟩ := List.mem_filter.mp hm
    obtain ⟨before,piece,after,hp,rfl⟩ := exists_piece_of_mem_messages hm
    rw [List.nil_append] at hv ⊢
    refine ⟨before,piece,after,hp,rfl,withinBudget_pieces budget h hp ?_⟩
    rintro rfl
    rw [hasVisibleContent_message,hasVisibleContent_nil] at hv
    cases hv
  · rw [hs,pieces_of_length_le hl,messages,messages]
    simp [openTags,tokens,openingTags]

/-- A link of more than the budget, whose text is taken token by token, and the same as a whole. -/
theorem split_within_budget_link :
    BracketsClose "<a href='x'>b<i>c</i></a>".toList ∧
      split 4 "<a href='x'>b<i>c</i></a>".toList =
        ["<a href='x'>b</a>".toList,"<a href='x'><i>c</i></a>".toList] ∧
      (∃ pieces : List (List Char), pieces.flatten = "<a href='x'>b<i>c</i></a>".toList ∧
        ∀ message ∈ split 4 "<a href='x'>b<i>c</i></a>".toList, ∃ before piece after,
          pieces = before ++ piece :: after ∧
          message = balance (openingTags (openTags before.flatten) ++ piece) ∧
          WithinBudget 4 before.flatten piece after.flatten) ∧
      split 40 "<a href='x'>b<i>c</i></a>".toList = ["<a href='x'>b<i>c</i></a>".toList] := by
  have hb : BracketsClose "<a href='x'>b<i>c</i></a>".toList := by decide +kernel
  have hl : "<a href='x'>b<i>c</i></a>".toList.length ≤ 40 := by decide
  obtain ⟨pieces,hp,-,hm⟩ := (split_within_budget hb 4).1
  refine ⟨hb,?_,⟨pieces,hp,hm⟩,?_⟩
  · decide +kernel
  · rw [(split_within_budget hb 40).2 hl]
    decide +kernel

end ChatMarkup.Markup
