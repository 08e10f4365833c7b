/-!
# Ranges of code points

A character class is an ascending list of closed ranges. The search stops at the first range that
begins above the code point, so common characters are found early.
-/
namespace ChatMarkup.Text

/-- The code point lies in one of the ascending ranges. -/
def inRanges : List (Nat × Nat) → Nat → Bool
  | [], _ => false
  | (low, high) :: rest, n => if n < low then false else n ≤ high || inRanges rest n

end ChatMarkup.Text
