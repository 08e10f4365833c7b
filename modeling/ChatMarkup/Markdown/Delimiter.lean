import ChatMarkup.Markdown.Block
import ChatMarkup.Text.Blank
import ChatMarkup.Text.Punctuation

/-!
# Emphasis

Runs of asterisks and underscores may open or close emphasis, depending on the characters around
them. Closing runs look for the nearest run that can open for them; two markers on both sides make
strong emphasis, and what no partner is found for is text.
-/
namespace ChatMarkup.Markdown
open Text

/-- A run of equal markers: how long it was, how many are left, and what it can do. -/
structure Run where
  marker : Char
  length : Nat
  left : Nat
  opens : Bool
  closes : Bool
deriving DecidableEq, Repr

/-- The end of a text counts as blank. -/
def isBlankBeside (c : Option Char) : Bool := c.all isBlank

def isPunctuationBeside (c : Option Char) : Bool := c.any isPunctuation

/-- The run of a number of markers between two characters. Something must follow closely for it to
open, and precede closely for it to close; underscores do neither inside a word. -/
def Run.between (before : Option Char) (marker : Char) (length : Nat) (after : Option Char) : Run :=
  let leans (near far : Option Char) : Bool :=
    !isBlankBeside near &&
      (!isPunctuationBeside near || isBlankBeside far || isPunctuationBeside far)
  let forward := leans after before
  let backward := leans before after
  if marker == '_' then
    { marker, length, left := length
      opens := forward && (!backward || isPunctuationBeside before)
      closes := backward && (!forward || isPunctuationBeside after) }
  else { marker, length, left := length, opens := forward, closes := backward }

/-- The run can open for a closing one. Where one of them could do both, their lengths must not
add up to a multiple of three, unless both are such multiples. -/
def Run.opensFor (opener closer : Run) : Bool :=
  opener.opens && opener.marker == closer.marker &&
    (!(opener.closes || closer.opens) || (opener.length + closer.length) % 3 != 0 ||
      (opener.length % 3 == 0 && closer.length % 3 == 0))

def Run.asText (r : Run) : Span := .text (String.ofList (List.replicate r.left r.marker))

inductive Piece where
  | span (s : Span)
  | run (r : Run)

/-- The piece as a span; markers that are left become text. -/
def Piece.toSpan : Piece → Span
  | .span s => s
  | .run r => r.asText

/-- The nearest run on the stack that opens for a closing one, the spans above it in order, and the
stack below it. The first argument collects the spans. -/
def opener? (closer : Run) : List Span → List Piece → Option (List Span × Run × List Piece)
  | _, [] => none
  | above, .span s :: below => opener? closer (s :: above) below
  | above, .run r :: below =>
    if r.opensFor closer then some (above, r, below)
    else opener? closer (r.asText :: above) below

/-- Puts a closing run on the stack, after it has closed what it can; at most so many times. -/
def close : Nat → Run → List Piece → List Piece
  | 0, _, stack => stack
  | n + 1, closer, stack =>
    if closer.left == 0 then stack
    else match opener? closer [] stack with
      | none => .run closer :: stack
      | some (content, opener, below) =>
        let used := if 2 ≤ opener.left && 2 ≤ closer.left then 2 else 1
        let style : Style := if used == 2 then .strong else .emphasis
        let rest :=
          if opener.left == used then below
          else .run { opener with left := opener.left - used } :: below
        close n { closer with left := closer.left - used } (.span (.styled style content) :: rest)

def push (stack : List Piece) : Piece → List Piece
  | .span s => .span s :: stack
  | .run r => if r.closes then close (r.left + 1) r stack else .run r :: stack

/-- The spans that a row of pieces makes. -/
def resolve (pieces : List Piece) : List Span :=
  ((pieces.foldl push []).map Piece.toSpan).reverse

end ChatMarkup.Markdown
