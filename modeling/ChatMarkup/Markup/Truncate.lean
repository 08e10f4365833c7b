import ChatMarkup.Markup.OpenTag

/-!
# Truncation

A markup that is too long keeps the longest run of whole tokens that fits, cut back to the last
safe boundary among them if there is one. Blanks at its end go, open tags are closed, and a marker
shows that something is missing. Closing tags and the marker may exceed the budget.
-/
namespace ChatMarkup.Markup
open Text

def truncationMarker : List Char := " [...]".toList

def fitting (budget : Nat) : List (List Char) → List (List Char)
  | [] => []
  | t :: ts => if t.length ≤ budget then t :: fitting (budget - t.length) ts else []

/-- The tokens up to the last safe boundary, or all of them if there is none. -/
def upToSafeBoundary (ts : List (List Char)) : List (List Char) :=
  match ts.reverse.dropWhile fun t => !isSafeBoundary t with
  | [] => ts
  | kept => kept.reverse

/-- The markup without a tag at its end that never closes. -/
def dropDanglingTag (s : List Char) : List Char :=
  match danglingIndex? '<' '>' s with
  | some i => s.take i
  | none => s

/-- The part of a markup that stays when it is cut down to the budget. -/
def keptPart (budget : Nat) (s : List Char) : List Char :=
  trimEnd (dropDanglingTag (upToSafeBoundary (fitting budget (tokens s))).flatten)

/-- The markup with the marker at its end, unless it ends in one already. -/
def withMarker (s : List Char) : List Char :=
  if endsWith "[...]".toList s then s else s ++ truncationMarker

/-- The markup itself if it fits, and otherwise its kept part, balanced and marked. -/
def truncate (budget : Nat) (s : List Char) : List Char :=
  if s.length ≤ budget then s else withMarker (balance (keptPart budget s))

end ChatMarkup.Markup
