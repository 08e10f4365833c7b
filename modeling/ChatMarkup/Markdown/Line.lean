import ChatMarkup.Markdown.Link
import ChatMarkup.Text.Digit

/-!
# Lines of Markdown

Blocks are told by how their lines begin. A line is given without its line break. Most marks may
be indented by up to three spaces; a tab at the start of a line counts as spaces.
-/
namespace ChatMarkup.Markdown
open Text

abbrev Line := List Char

def joined (lines : List Line) : List Char := lines.flatMap (· ++ ['\n'])

def isEmptyLine (l : Line) : Bool := l.all fun c => isGap c || c.toNat == 11 || c.toNat == 12

def indentOf (l : Line) : Nat := (l.takeWhile (· == ' ')).length

/-- The line after its indentation, which must not be deeper than the limit. -/
def dedented? (limit : Nat) (l : Line) : Option Line :=
  if indentOf l ≤ limit then some (l.drop (indentOf l)) else none

/-- A tab within the first four characters of a line, after spaces only, as spaces up to a width
that the function gives for the number of spaces before. -/
def expandTab (fill : Nat → Nat) (l : Line) : Line :=
  let spaces := indentOf l
  match l.drop spaces with
  | '\t' :: rest => if spaces ≤ 3 then List.replicate (spaces + fill spaces) ' ' ++ rest else l
  | _ => l

/-- A tab at the start of a line as spaces up to a column. -/
def expandTabTo (column : Nat) (l : Line) : Line := expandTab (column - ·) l

def expandTabByFour (l : Line) : Line := expandTab (fun _ => 4) l

/-- The line is indented as code is: by four spaces, or by a tab. -/
def isIndented (l : Line) : Bool :=
  let spaces := indentOf l
  !isEmptyLine l && (4 ≤ spaces || (l.drop spaces).head? == some '\t')

/-- The rank and the text of a heading with number signs, where a closing run of such signs is no
part of the text. -/
def heading? (l : Line) : Option (Nat × Line) :=
  (dedented? 3 l).bind fun l =>
    let level := (l.takeWhile (· == '#')).length
    let after := l.drop level
    if 1 ≤ level && level ≤ 6 && after.head?.all isGap then
      let text := trim after
      let short := dropEnd (· == '#') text
      if short.isEmpty || short.getLast?.any isBlank then some (level, trimEnd short)
      else some (level, text)
    else none

/-- The rank that a line of equal signs or hyphens gives to the paragraph above it. -/
def underline? (l : Line) : Option Nat :=
  (dedented? 3 l).bind fun l =>
    let marks := l.takeWhile fun c => c == '=' || c == '-'
    if (l.drop marks.length).all isGap then
      marks.getLast?.map fun c => if c == '=' then 1 else 2
    else none

/-- Three marks of a kind or more, and nothing else but spaces and tabs. -/
def isRule (limit : Nat) (l : Line) : Bool :=
  match dedented? limit l with
  | some (c :: rest) =>
    (c == '-' || c == '_' || c == '*') && rest.all (fun d => d == c || isGap d) &&
      2 ≤ rest.count c
  | _ => false

/-- The opening line of fenced code: its indentation, its mark, how many there are, and the words
after them. -/
structure Fence where
  indent : Nat
  mark : Char
  length : Nat
  info : Line
deriving DecidableEq, Repr

/-- The line looks like the opening line of fenced code. -/
def fence? (limit : Nat) (l : Line) : Option Fence :=
  match dedented? limit l with
  | some (c :: rest) =>
    let length := ((c :: rest).takeWhile (· == c)).length
    if (c == '\x60' || c == '~') && 3 ≤ length then
      some ⟨indentOf l, c, length, ((c :: rest).drop length).dropWhile isGap⟩
    else none
  | _ => none

/-- The fence can open a block: no backtick follows a fence of backticks. -/
def Fence.isSound (f : Fence) : Bool := !(f.mark == '\x60' && f.info.contains '\x60')

/-- The line closes the block of a fence. -/
def Fence.closedBy (f : Fence) (l : Line) : Bool :=
  match dedented? 3 l with
  | some l =>
    let length := (l.takeWhile (· == f.mark)).length
    f.length ≤ length && (l.drop length).all isGap
  | none => false

/-- What stands on the line after the mark of a quote. -/
def quoted? (limit : Nat) (l : Line) : Option Line :=
  match dedented? limit l with
  | some ('>' :: rest) => some rest
  | _ => none

/-- The first line of a list item: its indentation, how wide the marker is, the character it ends
in, the number before that, and the text after it. -/
structure Marker where
  indent : Nat
  width : Nat
  bullet : Char
  number : Option Nat
  text : Line
deriving DecidableEq, Repr

/-- The line begins a list item. Numbers have at most nine digits, of any script, and at least so
many as the second argument says. -/
def marker? (limit fewest : Nat) (l : Line) : Option Marker :=
  (dedented? limit l).bind fun body =>
    let digits := body.takeWhile fun c => (digitValue? c).isSome
    let numbered := fewest ≤ digits.length && digits.length ≤ 9
    match body.drop digits.length with
    | c :: text =>
      if !text.head?.all isGap then none
      else if digits.isEmpty && (c == '*' || c == '+' || c == '-') then
        some ⟨indentOf l, 1, c, none, text⟩
      else if numbered && (c == '.' || c == ')') then
        some ⟨indentOf l, digits.length + 1, c, some (ofDigits 10 (digits.filterMap digitValue?)),
          text⟩
      else none
    | [] => none

def listMarker? (limit : Nat) (l : Line) : Option Marker := marker? limit 1 l

/-- The line begins another item of a list with the same kind of marker. -/
def itemMarker? (limit : Nat) (bullet : Char) (l : Line) : Option Marker :=
  (marker? limit 0 l).filter fun m => m.bullet == bullet

end ChatMarkup.Markdown
