import ChatMarkup.Proofs.Render.ReadBack

/-!
# Escaped text

Escaping looks at each character once. It comes to the same as writing one reserved character after
the other as its reference, in the whole text, as long as the ampersand goes first: the references
of the others would have their ampersands escaped again. What is escaped is decoded to what it was,
also where it looks like a reference itself, so no two texts are escaped alike.
-/
namespace ChatMarkup.Render
open Text Markup

/-- The references that reserved characters are written as. -/
def reservedReferences : List (List Char) :=
  ["&amp;".toList,"&lt;".toList,"&gt;".toList,"&quot;".toList]

/-- A single character is replaced wherever it stands. -/
theorem replaceFrom_singleton (c : Char) (new s : List Char) :
    replaceFrom [c] new 0 s = s.flatMap fun d => if d = c then new else [d] := by
  induction s with
  | nil => rfl
  | cons d s ih =>
    have hc : [c].isPrefixOf (d :: s) = (c == d) := by simp [List.isPrefixOf]
    rw [replaceFrom,hc,List.flatMap_cons]
    by_cases h : d = c
    · simp [h,ih]
    · simp [h,Ne.symm h,ih]

/-- One reserved character after the other is written as its reference, the ampersand first. -/
theorem escape_eq_replaced (s : List Char) :
    escape s = replaceFrom ['"'] "&quot;".toList 0 (replaceFrom ['>'] "&gt;".toList 0
      (replaceFrom ['<'] "&lt;".toList 0 (replaceFrom ['&'] "&amp;".toList 0 s))) := by
  simp only [replaceFrom_singleton,List.flatMap_assoc,escape]
  congr 1
  funext c
  unfold escapeChar
  split
  · rfl
  · rfl
  · rfl
  · rfl
  · next h₁ h₂ h₃ h₄ =>
    rw [if_neg h₁,List.flatMap_singleton,if_neg h₂,List.flatMap_singleton,if_neg h₃,
      List.flatMap_singleton,if_neg h₄]

theorem ampersands_escapeChar (c : Char) :
    EachAmpersand (· ∈ reservedReferences) (escapeChar c) := by
  unfold escapeChar
  split
  · exact .piece rfl (by decide) (by decide)
  · exact .piece rfl (by decide) (by decide)
  · exact .piece rfl (by decide) (by decide)
  · exact .piece rfl (by decide) (by decide)
  · next h _ _ _ => exact .of_notMem (by simpa using Ne.symm h)

theorem ampersands_escape (s : List Char) :
    EachAmpersand (· ∈ reservedReferences) (escape s) := by
  induction s with
  | nil => exact .of_notMem (by simp [escape])
  | cons c s ih => exact (ampersands_escapeChar c).append ih

theorem escape_injective : Function.Injective escape :=
  Function.LeftInverse.injective decodeText_escape

/-- Escaping writes the reserved characters one after the other as references and nothing else, and
decoding undoes it. -/
theorem escape_undone (s t : List Char) :
    escape s = replaceFrom ['"'] "&quot;".toList 0 (replaceFrom ['>'] "&gt;".toList 0
      (replaceFrom ['<'] "&lt;".toList 0 (replaceFrom ['&'] "&amp;".toList 0 s))) ∧
    CharRef.decodeText (escape s) = s ∧ Function.Injective escape ∧
    Unmarked (escape s) ∧ EachAmpersand (· ∈ reservedReferences) (escape s) ∧
    escape (s ++ t) = escape s ++ escape t :=
  ⟨escape_eq_replaced s,decodeText_escape s,escape_injective,(prose_escape s).unmarked,
    ampersands_escape s,escape_append s t⟩

/-- Text that looks escaped is escaped again. -/
example : escape "&amp;lt; &#38;".toList = "&amp;amp;lt; &amp;#38;".toList := by decide

end ChatMarkup.Render
