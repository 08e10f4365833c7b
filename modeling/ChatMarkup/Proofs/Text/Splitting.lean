import ChatMarkup.Text.Search
import Mathlib.Data.List.Basic

/-!
# Pieces between separators

A text is its pieces joined by the separator again, and pieces that do not hold the separator are
found again in the joined text.
-/
namespace ChatMarkup.Text

/-! ## Joining -/

theorem mem_intercalate {sep : List Char} {xs : List (List Char)} {c : Char}
    (h : c ∈ sep.intercalate xs) : c ∈ sep ∨ ∃ x ∈ xs, c ∈ x := by
  induction xs with
  | nil => simp at h
  | cons x xs ih =>
    cases xs with
    | nil => exact .inr ⟨x,by simp,by simpa using h⟩
    | cons y xs =>
      rw [List.intercalate_cons_cons,List.mem_append,List.mem_append] at h
      rcases h with (h | h) | h
      · exact .inr ⟨x,by simp,h⟩
      · exact .inl h
      · exact (ih h).imp id fun ⟨z,hz,hc⟩ => ⟨z,List.mem_cons_of_mem x hz,hc⟩

theorem mem_intercalate_of_mem {sep : List Char} {xs : List (List Char)} {x : List Char} {c : Char}
    (hx : x ∈ xs) (hc : c ∈ x) : c ∈ sep.intercalate xs := by
  induction xs with
  | nil => simp at hx
  | cons y xs ih =>
    cases xs with
    | nil => simpa [List.mem_singleton.mp hx] using hc
    | cons z xs =>
      rw [List.intercalate_cons_cons,List.mem_append,List.mem_append]
      rcases List.mem_cons.mp hx with rfl | hx
      · exact .inl (.inl hc)
      · exact .inr (ih hx)

theorem intercalate_cons (sep x : List Char) (xs : List (List Char)) :
    sep.intercalate (x :: xs) = x ++ sep.intercalate ([] :: xs) := by
  cases xs <;> simp [List.intercalate_cons_cons]

/-! ## Splitting -/

section
variable (sep : Char)

theorem splitAt_eq_splitOn (s : List Char) : splitAt sep s = s.splitOn sep := by
  induction s with
  | nil => rw [splitAt,List.splitOn_nil]
  | cons c s ih =>
    rw [splitAt,List.splitOn_cons_eq_if_modifyHead,ih]
    cases hp : s.splitOn sep with
    | nil => exact absurd hp (List.splitOn_ne_nil sep s)
    | cons piece pieces => rfl

theorem intercalate_splitAt (s : List Char) : [sep].intercalate (splitAt sep s) = s := by
  rw [splitAt_eq_splitOn,List.intercalate_splitOn]

variable {sep}

theorem splitAt_intercalate {pieces : List (List Char)} (h : ∀ piece ∈ pieces, sep ∉ piece)
    (hn : pieces ≠ []) : splitAt sep ([sep].intercalate pieces) = pieces := by
  rw [splitAt_eq_splitOn,List.splitOn_intercalate sep h hn]

theorem splitAt_append_cons (x y : List Char) :
    splitAt sep (x ++ sep :: y) = splitAt sep x ++ splitAt sep y := by
  simp only [splitAt_eq_splitOn,List.splitOn_append_cons_self]

theorem notMem_of_mem_splitAt {s : List Char} : ∀ piece ∈ splitAt sep s, sep ∉ piece := by
  fun_induction splitAt sep s with
  | case1 => simp
  | case2 c s _ ih => exact List.forall_mem_cons.mpr ⟨List.not_mem_nil,ih⟩
  | case3 c s hc _ _ =>
    intro piece hp
    rw [List.mem_singleton.mp hp,List.mem_singleton]
    exact fun he => hc (by simp [he])
  | case4 c s hc piece pieces hs ih =>
    rw [hs,List.forall_mem_cons] at ih
    refine List.forall_mem_cons.mpr ⟨?_,ih.2⟩
    rw [List.mem_cons,not_or]
    exact ⟨fun he => hc (by simp [he]),ih.1⟩

end

end ChatMarkup.Text
