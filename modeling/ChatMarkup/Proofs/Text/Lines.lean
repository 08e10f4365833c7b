import ChatMarkup.Proofs.Text.Trim
import ChatMarkup.Text.Lines
import Mathlib.Data.List.Basic

/-!
# Lines

Text behind a line feed has lines of its own. What does not end a line is found again in one of the
lines.
-/
namespace ChatMarkup.Text

section
variable (line : List Char)

theorem linesFrom_lineFeed (s : List Char) :
    linesFrom line ('\n' :: s) = line.reverse :: linesFrom [] s := by
  rw [linesFrom]
  · rfl
  · simp

theorem linesFrom_of_endsLine {c : Char} (hc : endsLine c = true) {s : List Char}
    (hs : c = '\r' → s.head? ≠ some '\n') :
    linesFrom line (c :: s) = line.reverse :: linesFrom [] s := by
  rw [linesFrom]
  · rw [if_pos hc]
  · rintro rest rfl rfl
    exact hs rfl rfl

theorem linesFrom_of_not_endsLine {c : Char} (hc : endsLine c = false) (s : List Char) :
    linesFrom line (c :: s) = linesFrom (c :: line) s := by
  rw [linesFrom]
  · rw [if_neg (by simp [hc])]
  · rintro rest rfl -
    exact absurd hc (by decide)

/-- Characters that do not end a line are added to it. -/
theorem linesFrom_append {w : List Char} (hw : ∀ c ∈ w, endsLine c = false) (s : List Char) :
    linesFrom line (w ++ s) = linesFrom (w.reverse ++ line) s := by
  induction w generalizing line with
  | nil => rfl
  | cons c w ih =>
    rw [List.cons_append,linesFrom_of_not_endsLine line (hw c (by simp)),
      ih _ fun d hd => hw d (List.mem_cons_of_mem c hd)]
    simp

theorem linesFrom_append_lineFeed (x y : List Char) :
    linesFrom line (x ++ '\n' :: y) = linesFrom line (x ++ ['\n']) ++ linesFrom [] y := by
  fun_induction linesFrom line x with
  | case1 => simp [linesFrom_lineFeed,linesFrom]
  | case2 => simp [linesFrom_lineFeed,linesFrom]
  | case3 line rest ih => simp [linesFrom,ih]
  | case4 line c rest hr hc ih =>
    cases rest with
    | nil =>
      by_cases hret : c = '\r'
      · subst hret
        simp [linesFrom]
      · have hn (s : List Char) : c = '\r' → s.head? ≠ some '\n' := fun e => absurd e hret
        simp [linesFrom_of_endsLine line hc (hn _),linesFrom_lineFeed,linesFrom]
    | cons d rest =>
      have he (s : List Char) : linesFrom line (c :: d :: rest ++ s) =
          line.reverse :: linesFrom [] (d :: rest ++ s) := by
        refine linesFrom_of_endsLine line hc fun e hd => ?_
        obtain rfl : d = '\n' := by simpa using hd
        exact hr rest e rfl
      rw [he,he,ih]
      exact List.cons_append.symm
  | case5 line c rest _ hc ih =>
    have hc' : endsLine c = false := by simpa using hc
    rw [List.cons_append,List.cons_append,linesFrom_of_not_endsLine line hc',
      linesFrom_of_not_endsLine line hc',ih]

/-- A character that ends no line stands in a line. -/
theorem exists_mem_linesFrom {c : Char} (hc : endsLine c = false) (s : List Char)
    (h : c ∈ line ∨ c ∈ s) : ∃ l ∈ linesFrom line s, c ∈ l := by
  fun_induction linesFrom line s with
  | case1 => simp at h
  | case2 line => exact ⟨line.reverse,by simp,by simpa using h⟩
  | case3 line rest ih =>
    rcases h with h | h
    · exact ⟨line.reverse,by simp,by simpa using h⟩
    · have hm : c ∈ rest := by
        rcases List.mem_cons.mp h with rfl | h
        · exact absurd hc (by decide)
        rcases List.mem_cons.mp h with rfl | h
        · exact absurd hc (by decide)
        · exact h
      obtain ⟨l,hl,hcl⟩ := ih (.inr hm)
      exact ⟨l,List.mem_cons_of_mem _ hl,hcl⟩
  | case4 line d rest _ hd ih =>
    rcases h with h | h
    · exact ⟨line.reverse,by simp,by simpa using h⟩
    · rcases List.mem_cons.mp h with rfl | h
      · exact absurd hd (by simp [hc])
      · obtain ⟨l,hl,hcl⟩ := ih (.inr h)
        exact ⟨l,List.mem_cons_of_mem _ hl,hcl⟩
  | case5 line d rest _ _ ih =>
    refine ih ?_
    rcases h with h | h
    · exact .inl (List.mem_cons_of_mem d h)
    · rcases List.mem_cons.mp h with rfl | h
      · exact .inl List.mem_cons_self
      · exact .inr h

end

/-- A text comes apart at the first character that ends a line. -/
theorem exists_firstEnd {s : List Char} {c : Char} (h : c ∈ s) (hc : endsLine c = true) :
    ∃ a d b, s = a ++ d :: b ∧ (∀ x ∈ a, endsLine x = false) ∧ endsLine d = true := by
  induction s with
  | nil => simp at h
  | cons x s ih =>
    cases hx : endsLine x with
    | true => exact ⟨[],x,s,rfl,by simp,hx⟩
    | false =>
      have hm : c ∈ s := by
        rcases List.mem_cons.mp h with rfl | h
        · exact absurd hc (by simp [hx])
        · exact h
      obtain ⟨a,d,b,rfl,ha,hd⟩ := ih hm
      exact ⟨x :: a,d,b,rfl,List.forall_mem_cons.mpr ⟨hx,ha⟩,hd⟩

end ChatMarkup.Text
