import ChatMarkup.Proofs.Text.Splitting
import ChatMarkup.Text.Blank
import Mathlib.Data.List.DropRight
import Mathlib.Data.List.TakeWhile
import Mathlib.Tactic.SplitIfs

/-!
# Trimming

Trimming takes away blanks and nothing else. Of two texts one after the other, only the first is
trimmed at its start and only the second at its end, unless nothing is left of it.
-/
namespace ChatMarkup.Text

theorem exists_trimStart (s : List Char) :
    ∃ blanks, s = blanks ++ trimStart s ∧ ∀ c ∈ blanks, isBlank c = true :=
  ⟨s.takeWhile isBlank,List.takeWhile_append_dropWhile.symm,fun _ => List.mem_takeWhile_imp⟩

theorem exists_trimEnd (s : List Char) :
    ∃ blanks, s = trimEnd s ++ blanks ∧ ∀ c ∈ blanks, isBlank c = true := by
  refine ⟨(s.reverse.takeWhile isBlank).reverse,?_,?_⟩
  · rw [trimEnd,dropEnd,← List.reverse_append,List.takeWhile_append_dropWhile,
      List.reverse_reverse]
  · intro c hc
    exact List.mem_takeWhile_imp (List.mem_reverse.mp hc)

/-- What is not left after trimming was blank. -/
theorem mem_trim {s : List Char} {c : Char} (h : c ∈ s) : c ∈ trim s ∨ isBlank c = true := by
  obtain ⟨b₁,h₁,hb₁⟩ := exists_trimStart s
  obtain ⟨b₂,h₂,hb₂⟩ := exists_trimEnd (trimStart s)
  rw [h₁] at h
  rcases List.mem_append.mp h with h | h
  · exact .inr (hb₁ c h)
  rw [h₂] at h
  rcases List.mem_append.mp h with h | h
  · exact .inl h
  · exact .inr (hb₂ c h)

theorem trim_subset (s : List Char) : trim s ⊆ s := by
  intro c hc
  have he : c ∈ trimStart s :=
    List.mem_reverse.mp (List.dropWhile_subset isBlank (List.mem_reverse.mp hc))
  exact List.dropWhile_subset isBlank he

theorem trimStart_append (x y : List Char) :
    trimStart (x ++ y) = if (trimStart x).isEmpty then trimStart y else trimStart x ++ y :=
  List.dropWhile_append

theorem trimEnd_append (x y : List Char) :
    trimEnd (x ++ y) = if (trimEnd y).isEmpty then trimEnd x else x ++ trimEnd y := by
  unfold trimEnd dropEnd
  rw [List.reverse_append,List.dropWhile_append]
  by_cases h : (y.reverse.dropWhile isBlank).isEmpty
  · rw [if_pos h,if_pos (by simpa using h)]
  · rw [if_neg h,if_neg (by simpa using h),List.reverse_append,List.reverse_reverse]

/-- A piece that does not begin in a blank keeps what follows it. -/
theorem trimStart_append_of {x : List Char} (hx : trimStart x = x) (hn : x ≠ [])
    (y : List Char) : trimStart (x ++ y) = x ++ y := by
  rw [trimStart_append,hx,if_neg (by simpa using hn)]

/-- A piece that does not end in a blank stays whole. -/
theorem trimEnd_append_of {x : List Char} (hx : trimEnd x = x) (y : List Char) :
    trimEnd (x ++ y) = x ++ trimEnd y := by
  rw [trimEnd_append,hx]
  split_ifs with h
  · rw [List.isEmpty_iff.mp h,List.append_nil]
  · rfl

/-- A piece that does not end in a blank stays where it is. -/
theorem trimEnd_append_filled {y : List Char} (hy : trimEnd y = y) (hn : y ≠ []) (x : List Char) :
    trimEnd (x ++ y) = x ++ y := by
  rw [trimEnd_append,hy,if_neg (by simpa using hn)]

theorem trimEnd_of_trim {s : List Char} (h : trim s = s) : trimEnd s = s := by
  have hi : trimEnd (trim s) = trim s := by
    simp only [trim,trimEnd,dropEnd,List.reverse_reverse,List.dropWhile_idempotent]
  rwa [h] at hi

theorem trimStart_of_trim {s : List Char} (h : trim s = s) : trimStart s = s := by
  have hs : trimStart s <:+ s := List.dropWhile_suffix isBlank
  obtain ⟨blanks,he,-⟩ := exists_trimEnd (trimStart s)
  have hl := congrArg List.length he
  rw [← trim,h,List.length_append] at hl
  exact hs.eq_of_length (le_antisymm hs.length_le (by omega))

theorem trimEnd_concat {c : Char} (hc : isBlank c = false) (x : List Char) :
    trimEnd (x ++ [c]) = x ++ [c] := by
  simp [trimEnd,dropEnd,hc]

theorem isBlank_head {c : Char} {s : List Char} (h : trimStart (c :: s) = c :: s) :
    isBlank c = false := by
  by_contra hc
  rw [trimStart,List.dropWhile_cons_of_pos (by simpa using hc)] at h
  have hl := congrArg List.length h
  have hd := (List.dropWhile_suffix isBlank (l := s)).length_le
  rw [List.length_cons] at hl
  omega

theorem isBlank_last {c : Char} {s : List Char} (h : trimEnd (s ++ [c]) = s ++ [c]) :
    isBlank c = false := by
  apply isBlank_head (s := s.reverse)
  have hr := congrArg List.reverse h
  simpa [trimEnd,dropEnd,trimStart] using hr

/-- Text between two characters that are no blanks is not trimmed. -/
theorem trim_between {c d : Char} (hc : isBlank c = false) (hd : isBlank d = false)
    (s : List Char) : trim (c :: s ++ [d]) = c :: s ++ [d] := by
  have hs : trimStart (c :: s ++ [d]) = c :: s ++ [d] := by
    rw [trimStart,List.cons_append,List.dropWhile_cons_of_neg (by simp [hc])]
  rw [trim,hs,trimEnd_concat hd]

theorem trim_cons_blank {c : Char} (hc : isBlank c = true) (s : List Char) :
    trim (c :: s) = trim s := by
  rw [trim,trimStart,List.dropWhile_cons_of_pos hc]
  rfl

theorem trim_concat_blank {c : Char} (hc : isBlank c = true) (s : List Char) :
    trim (s ++ [c]) = trim s := by
  have he (x : List Char) : trimEnd (x ++ [c]) = trimEnd x := by simp [trimEnd,dropEnd,hc]
  rw [trim,trim,trimStart_append]
  split_ifs with h
  · rw [List.isEmpty_iff.mp h,trimStart,List.dropWhile_cons_of_pos hc,List.dropWhile_nil]
  · exact he _

/-! ## Texts that end in a character -/

def EndsFilled (s : List Char) : Prop := s ≠ [] ∧ trimEnd s = s

theorem EndsFilled.append {y : List Char} (h : EndsFilled y) (x : List Char) :
    EndsFilled (x ++ y) :=
  ⟨List.append_ne_nil_of_right_ne_nil x h.1,trimEnd_append_filled h.2 h.1 x⟩

theorem endsFilled_intercalate {lines : List (List Char)} (hn : lines ≠ [])
    (h : ∀ line ∈ lines.getLast?, EndsFilled line) (sep : List Char) :
    EndsFilled (sep.intercalate lines) := by
  induction lines with
  | nil => exact absurd rfl hn
  | cons x xs ih =>
    cases xs with
    | nil => simpa using h
    | cons y ys =>
      rw [List.intercalate_cons_cons]
      exact (ih (by simp) (by simpa using h)).append _

/-! ## Words -/

theorem mem_wordsFrom {word : List Char} (hw : ∀ c ∈ word, isBlank c = false) (s : List Char) :
    ∀ w ∈ wordsFrom s word, w ≠ [] ∧ ∀ c ∈ w, isBlank c = false := by
  fun_induction wordsFrom s word with
  | case1 => simp
  | case2 word hn =>
    refine List.forall_mem_singleton.mpr ⟨?_,fun c hc => hw c (List.mem_reverse.mp hc)⟩
    exact fun he => hn (List.reverse_eq_nil_iff.mp he)
  | case3 word c rest _ _ ih => exact ih (by simp)
  | case4 word c rest _ hn ih =>
    refine List.forall_mem_cons.mpr ⟨⟨?_,fun d hd => hw d (List.mem_reverse.mp hd)⟩,ih (by simp)⟩
    exact fun he => hn (List.isEmpty_iff.mpr (List.reverse_eq_nil_iff.mp he))
  | case5 word c rest hc ih =>
    exact ih (List.forall_mem_cons.mpr ⟨by simpa using hc,hw⟩)

/-- A word is not empty and holds no blanks. -/
theorem mem_words {s w : List Char} (h : w ∈ words s) : w ≠ [] ∧ ∀ c ∈ w, isBlank c = false :=
  mem_wordsFrom (by simp) s w h

theorem trimStart_of_solid {w : List Char} (h : ∀ c ∈ w, isBlank c = false) : trimStart w = w := by
  cases w with
  | nil => rfl
  | cons c w => simp [trimStart,h c]

theorem trimEnd_of_solid {w : List Char} (h : ∀ c ∈ w, isBlank c = false) : trimEnd w = w := by
  have hr := trimStart_of_solid (w := w.reverse) fun c hc => h c (List.mem_reverse.mp hc)
  rw [trimStart] at hr
  rw [trimEnd,dropEnd,hr,List.reverse_reverse]

theorem trim_collapse (s : List Char) : trim (collapse s) = collapse s := by
  have hw : ∀ w ∈ words s, w ≠ [] ∧ ∀ c ∈ w, isBlank c = false := fun w => mem_words
  unfold collapse
  cases hs : words s with
  | nil => rfl
  | cons w ws =>
    rw [hs] at hw
    have he : EndsFilled ([' '].intercalate (w :: ws)) := by
      apply endsFilled_intercalate (List.cons_ne_nil w ws)
      intro v hv
      have hm := hw v (List.mem_of_getLast? hv)
      exact ⟨hm.1,trimEnd_of_solid hm.2⟩
    obtain ⟨hn,hb⟩ := hw w List.mem_cons_self
    have ht : trimStart ([' '].intercalate (w :: ws)) = [' '].intercalate (w :: ws) := by
      rw [intercalate_cons,trimStart_append_of (trimStart_of_solid hb) hn]
    rw [trim,ht,he.2]

theorem isBlank_of_mem_collapse {s : List Char} {c : Char} (h : c ∈ collapse s) (hc : c ≠ ' ') :
    isBlank c = false := by
  rcases mem_intercalate h with h | ⟨w,hw,h⟩
  · exact absurd (List.mem_singleton.mp h) hc
  · exact (mem_words hw).2 c h

end ChatMarkup.Text
