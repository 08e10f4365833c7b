import ChatMarkup.Markdown.HtmlBlock

/-!
# List items

An item goes on with the lines that are indented as far as its text, and with lines that go on with
its last paragraph. It ends before another item, before a line that begins something else, and
after an empty line that nothing indented follows.
-/
namespace ChatMarkup.Markdown
open Text

/-- The text of an item's first line, if there is any, and the column at which its text begins. -/
def itemText (m : Marker) : Option Line × Nat :=
  let text := expandTabByFour (expandTabTo 3 m.text)
  let spaces := (text.takeWhile isBlank).length
  let leading := m.indent + m.width
  if spaces == 0 || text.all isBlank then (none, leading + 1)
  else
    let gap := if (text.take 5).all (· == ' ') && 5 ≤ text.length then 1 else spaces
    (some (text.drop gap), leading + gap)

/-- What is known of the item that is being read: the end of its marker, the character that the
marker ends in, the column of its text, and whether there was any on the first line. -/
structure ItemFrame where
  leading : Nat
  bullet : Char
  column : Nat
  isEmpty : Bool

/-- The further lines of an item, what follows them, and the marker of the next item if one follows
at once; `spaced` tells that empty lines precede it. -/
structure ItemBody where
  lines : List Line := []
  rest : List Line := []
  next : Option Marker := none
  spaced : Bool := false

/-- A line that is not indented as far as the item's text, and begins something else. -/
def endsItem (limit : Nat) (l : Line) : Bool :=
  (fence? limit l).any Fence.isSound || ((fence? limit l).isNone &&
    (((dedented? limit l).bind heading?).isSome || (quoted? limit l).isSome || isHtmlBreak limit l ||
      (listMarker? limit l).isSome))

/-- Reads the further lines of an item. The flags tell that the line before is empty, and that none
of the further lines has said anything yet. -/
def itemBody (frame : ItemFrame) : Bool → Bool → List Line → ItemBody
  | _, _, [] => {}
  | afterEmpty, silent, l :: rest =>
    let limit := min 3 frame.leading
    let add (line : Line) (b : ItemBody) : ItemBody := { b with lines := line :: b.lines }
    if isEmptyLine l then add [] (itemBody frame true silent rest)
    else
      let line := expandTabTo 4 l
      if (line.take frame.column).all (· == ' ') && frame.column ≤ line.length then
        if afterEmpty && frame.isEmpty && silent then { rest := l :: rest }
        else add line (itemBody frame false (silent && line.all isBlank) rest)
      else if isRule limit l then { rest := l :: rest }
      else match itemMarker? limit frame.bullet l with
        | some next => { rest, next := some next, spaced := afterEmpty }
        | none =>
          if afterEmpty || endsItem limit l then { rest := l :: rest }
          else add line (itemBody frame false (silent && line.all isBlank) rest)

/-- A further line of an item without the indentation of the item's text. -/
def outdented (column : Nat) (l : Line) : Line :=
  if (l.take column).all (· == ' ') && column ≤ l.length then expandTabByFour (l.drop column) else l

/-- The lines without the empty ones at their end, save the first line. -/
def dropEmptyEnd : List Line → List Line
  | [] => []
  | first :: rest => first :: (rest.reverse.dropWhile (·.all isBlank)).reverse

def item (m : Marker) (rest : List Line) : List Line × ItemBody :=
  let (text, column) := itemText m
  let body := itemBody ⟨m.indent + m.width, m.bullet, column, text.isNone⟩ false true rest
  (dropEmptyEnd (text.toList ++ body.lines.map (outdented column)), body)

end ChatMarkup.Markdown
