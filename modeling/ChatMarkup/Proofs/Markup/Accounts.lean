import ChatMarkup.Proofs.Markup.Fragments
import Mathlib.Data.List.Induction

/-!
# The account that a splitter keeps

Between two tokens the buffer of a splitter begins with the tags that its last cut left open, fits
its budget or holds nothing else, and marks a safe place inside of itself. Everything taken in so
far lies, in order, in the fragments that were cut off and in the rest of the buffer. Each way in
which a splitter moves keeps this account: a token that is put in the buffer, one cut, a row of
cuts, and the mark of a safe place.
-/
namespace ChatMarkup.Markup

/-- The account of a splitter that has cut off these fragments and taken in this text. -/
structure Accounts (b : Splitter) (fs : List Fragment) (taken : List Char) : Prop where
  carried_le : b.carried ≤ b.buffer.length
  carried : b.buffer.take b.carried = carriedOver fs
  safe_le : ∀ safe, b.lastSafe = some safe → safe ≤ b.buffer.length
  contents : contents fs ++ b.buffer.drop b.carried = taken
  reopened : ∀ before f, before ++ [f] <+: fs → f.reopened = carriedOver before
  messages : b.done.reverse = (fs.map fun f => balance f.text).filter hasVisibleContent

namespace Accounts
variable {b : Splitter} {fs : List Fragment} {taken : List Char}

theorem start (budget : ℕ) : Accounts { budget } [] [] := by
  constructor <;> simp [Markup.contents,carriedOver]

theorem append (h : Accounts b fs taken) (token : List Char) :
    Accounts (b.append token) fs (taken ++ token) := by
  constructor
  · have := h.carried_le
    simp [Splitter.append]
    omega
  · change (b.buffer ++ token).take b.carried = carriedOver fs
    rw [List.take_append_of_le_length h.carried_le,h.carried]
  · intro safe hs
    have := h.safe_le safe hs
    simp [Splitter.append]
    omega
  · change Markup.contents fs ++ (b.buffer ++ token).drop b.carried = taken ++ token
    rw [List.drop_append_of_le_length h.carried_le,← List.append_assoc,h.contents]
  · exact h.reopened
  · exact h.messages

/-- One cut: what lies before it goes into a fragment, and the tags that this leaves open are
carried over. -/
theorem cutAt (h : Accounts b fs taken) {p : ℕ} (hp : b.carried ≤ p) :
    Accounts (b.cutAt p) (fs ++ [b.fragment p]) taken := by
  have hle := h.carried_le
  constructor
  · simp
  · simp [carriedOver,Splitter.fragment_text hp]
  · simp
  · have hd : (b.buffer.take p).drop b.carried ++ b.buffer.drop p = b.buffer.drop b.carried := by
      rw [← List.drop_append_of_le_length (by simp; omega),List.take_append_drop]
    rw [← h.contents,Splitter.cutAt_buffer,Splitter.cutAt_carried,List.drop_left,← hd]
    simp [Markup.contents,Splitter.fragment]
  · intro before f hf
    rcases List.prefix_concat_iff.mp hf with he | hf
    · obtain ⟨rfl,hl⟩ := List.append_inj' he rfl
      rw [List.singleton_inj.mp hl]
      exact h.carried
    · exact h.reopened before f hf
  · rw [Splitter.cutAt_done,h.messages,← Splitter.fragment_text hp]
    simp

theorem shrink (h : Accounts b fs taken) :
    Accounts b.shrink (fs ++ b.shrinkCuts) taken := by
  fun_induction Splitter.shrinkCuts b generalizing fs with
  | case1 b ho ih =>
    have hc := h.cutAt (Nat.le_of_lt (lt_forcedCut b.budget ho.2))
    rw [Splitter.shrink_of_overfull ho]
    simpa using ih hc
  | case2 b ho =>
    rw [Splitter.shrink_of_not_overfull ho]
    simpa using h

theorem markSafe (h : Accounts b fs taken) :
    Accounts { b with lastSafe := some b.buffer.length } fs taken := by
  refine ⟨h.carried_le,h.carried,?_,h.contents,h.reopened,h.messages⟩
  intro safe hs
  exact Nat.le_of_eq (Option.some.inj hs).symm

end Accounts

namespace Splitter

/-! ## Taking in a token -/

/-- Taking in a token puts it in the buffer, and cuts this if it is too long. -/
theorem place_eq (b : Splitter) (token : List Char) :
    b.place token =
      if b.budget < (b.append token).buffer.length then
        ((b.append token).cutAt (b.cutPlace (b.append token).buffer)).shrink
      else b.append token := by
  have hc : b.cut (b.buffer ++ token) (b.cutPlace (b.buffer ++ token)) =
      (b.append token).cutAt (b.cutPlace (b.append token).buffer) := by
    unfold cutAt cut emit append
    dsimp only
    split_ifs <;> rfl
  unfold place
  dsimp only
  rw [hc]
  rfl

/-- The first cut of a markup takes off more than the carried tags. -/
theorem lt_cutPlace {b : Splitter} {s : List Char} (h : b.carried < s.length) :
    b.carried < b.cutPlace s := by
  unfold cutPlace
  split
  · split_ifs with hs
    · exact hs
    · exact lt_forcedCut b.budget h
  · exact lt_forcedCut b.budget h

theorem carried_lt_append {b : Splitter} {fs : List Fragment} {taken token : List Char}
    (h : Accounts b fs taken) (ht : token ≠ []) :
    b.carried < (b.append token).buffer.length := by
  have hle := h.carried_le
  have hp := List.length_pos_iff.mpr ht
  simp [append]
  omega

theorem accounts_place {b : Splitter} {fs : List Fragment} {taken token : List Char}
    (h : Accounts b fs taken) (ht : token ≠ []) :
    Accounts (b.place token) (fs ++ b.addCuts token) (taken ++ token) := by
  rw [place_eq,addCuts]
  split_ifs with hb
  · have hp := lt_cutPlace (carried_lt_append h ht)
    have hc := (h.append token).cutAt (Nat.le_of_lt hp)
    simpa using hc.shrink
  · simpa using h.append token

theorem accounts_add {b : Splitter} {fs : List Fragment} {taken token : List Char}
    (h : Accounts b fs taken) (ht : token ≠ []) :
    Accounts (b.add token) (fs ++ b.addCuts token) (taken ++ token) := by
  have hp := accounts_place h ht
  unfold add
  dsimp only
  split_ifs
  · exact hp.markSafe
  · exact hp

theorem place_fits (b : Splitter) (token : List Char) : ¬ (b.place token).Overfull := by
  rw [place_eq]
  split_ifs with hb
  · exact (recuts_shrink _).not_overfull
  · exact fun ho => hb ho.1

/-- Between two tokens the buffer fits the budget or holds carried tags only. -/
theorem add_fits (b : Splitter) (token : List Char) : ¬ (b.add token).Overfull := by
  have hp := place_fits b token
  unfold add
  dsimp only
  split_ifs
  · exact hp
  · exact hp

theorem cuts_append (b : Splitter) (ts us : List (List Char)) :
    b.cuts (ts ++ us) = b.cuts ts ++ (ts.foldl add b).cuts us := by
  induction ts generalizing b with
  | nil => rfl
  | cons t ts ih => simp [cuts,ih]

theorem cuts_concat (b : Splitter) (ts : List (List Char)) (t : List Char) :
    b.cuts (ts ++ [t]) = b.cuts ts ++ (ts.foldl add b).addCuts t := by
  rw [cuts_append,cuts,cuts,List.append_nil]

theorem accounts_run (budget : ℕ) {ts : List (List Char)} (ht : ∀ t ∈ ts, t ≠ []) :
    Accounts (ts.foldl add { budget }) (cuts { budget } ts) ts.flatten := by
  induction ts using List.reverseRecOn with
  | nil => exact Accounts.start budget
  | append_singleton ts t ih =>
    have hts := ih fun u hu => ht u (by simp [hu])
    have h := accounts_add hts (ht t (by simp))
    rw [List.foldl_append,List.foldl_cons,List.foldl_nil,cuts_concat]
    simpa using h

/-! ## Runs -/

theorem Recuts.budget {b c : Splitter} (h : Recuts b c) : c.budget = b.budget := by
  induction h with
  | stop _ => rfl
  | round _ _ _ ih => simpa [recut] using ih

theorem add_budget (b : Splitter) (token : List Char) : (b.add token).budget = b.budget := by
  have hp : (b.place token).budget = b.budget := by
    rw [place_eq]
    split_ifs
    · rw [(recuts_shrink _).budget,cutAt_budget]
      rfl
    · rfl
  unfold add
  dsimp only
  split_ifs <;> exact hp

theorem foldl_add_budget (b : Splitter) (ts : List (List Char)) :
    (ts.foldl add b).budget = b.budget := by
  induction ts generalizing b with
  | nil => rfl
  | cons t ts ih => rw [List.foldl_cons,ih,add_budget]

theorem foldl_add_fits (budget : ℕ) (ts : List (List Char)) :
    ¬ (ts.foldl add { budget }).Overfull := by
  induction ts using List.reverseRecOn with
  | nil => simp [Overfull]
  | append_singleton ts t _ =>
    rw [List.foldl_append,List.foldl_cons,List.foldl_nil]
    exact add_fits _ t

/-- Taking in a token ends. Where the buffer gets too long, the first cut leaves less pending, and
so does every round of cutting behind it; the last round leaves the splitter with the token. -/
def TakesIn (b : Splitter) (token : List Char) : Prop :=
  let c := b.append token
  b.budget < c.buffer.length →
    (c.cutAt (b.cutPlace c.buffer)).pending < c.pending ∧
      Recuts (c.cutAt (b.cutPlace c.buffer)) (b.place token)

theorem takesIn_of_accounts {b : Splitter} {fs : List Fragment} {taken token : List Char}
    (h : Accounts b fs taken) (ht : token ≠ []) : b.TakesIn token := by
  intro hc
  have hlt := carried_lt_append h ht
  refine ⟨cutAt_pending (lt_cutPlace hlt) hlt,?_⟩
  rw [place_eq,if_pos hc]
  exact recuts_shrink _

/-- After any row of tokens, none of them empty, the account stands, the buffer fits the budget or
is made of the carried tags, and taking in one more token ends. -/
theorem run_keeps_account (budget : ℕ) (ts : List (List Char)) (ht : ∀ t ∈ ts, t ≠ []) :
    Accounts (ts.foldl add { budget }) (cuts { budget } ts) ts.flatten ∧
      ((ts.foldl add { budget }).buffer.length ≤ budget ∨
        (ts.foldl add { budget }).buffer = carriedOver (cuts { budget } ts)) ∧
      ∀ token, token ≠ [] → (ts.foldl add { budget }).TakesIn token := by
  have ha := accounts_run budget ht
  have hf := foldl_add_fits budget ts
  have hb : (ts.foldl add { budget }).budget = budget := foldl_add_budget _ ts
  generalize ts.foldl add { budget } = b at ha hf hb
  refine ⟨ha,?_,fun token h => takesIn_of_accounts ha h⟩
  by_cases hlen : b.buffer.length ≤ budget
  · exact .inl hlen
  · have hc : b.buffer.length ≤ b.carried := by
      by_contra hlt
      exact hf ⟨by omega,by omega⟩
    exact .inr (by rw [← ha.carried,List.take_of_length_le hc])

/-- Bold text that has to be cut inside of a word. -/
theorem run_keeps_account_bold :
    (∀ t ∈ ["<b>".toList,"aaabbb".toList,"</b>".toList], t ≠ []) ∧
      Accounts (["<b>".toList,"aaabbb".toList,"</b>".toList].foldl add { budget := 6 })
        (cuts { budget := 6 } ["<b>".toList,"aaabbb".toList,"</b>".toList])
        "<b>aaabbb</b>".toList :=
  ⟨by decide,(run_keeps_account 6 _ (by decide)).1⟩

end Splitter

end ChatMarkup.Markup
