import ChatMarkup.Data.Yaml.Node

/-!
# Places in a YAML text

A reader of YAML has to know the line and the column it is at, and whether a key may begin there:
a key begins a line, but for the hyphens of a list before it. Readers take what they read off the
text and fail where it is not as they need it.
-/
namespace ChatMarkup.Yaml

def isBreak (c : Char) : Bool :=
  c == '\n' || c == '\r' || c == '\x85' || c == '\u2028' || c == '\u2029'

/-- The character ends a line or is a space or tab. -/
def isBlank (c : Char) : Bool := c == ' ' || c == '\t' || isBreak c

def startsBlank (s : List Char) : Bool := s.head?.all isBlank

def isPrintable (c : Char) : Bool :=
  let n := c.toNat
  n == 9 || n == 10 || n == 13 || n == 0x85 || (0x20 ≤ n && n ≤ 0x7E) ||
    (0xA0 ≤ n && n ≤ 0xFFFD) || 0x10000 ≤ n

/-- What is left of a text, where that begins, whether a key may begin there, and the nodes that have
been given a name so far. -/
structure Cursor where
  rest : List Char
  line : Nat := 0
  column : Nat := 0
  fresh : Bool := true
  anchors : List (String × Node) := []

abbrev Reader := StateT Cursor Option

def Cursor.step (c : Cursor) : Cursor :=
  match c.rest with
  | [] => c
  | x :: rest =>
    if isBreak x then { c with rest, line := c.line + 1, column := 0 }
    else { c with rest, column := c.column + 1 }

def Cursor.advance : Nat → Cursor → Cursor
  | 0, c => c
  | n + 1, c => advance n c.step

/-- Three hyphens or three dots at the start of a line, which end a document. -/
def Cursor.atMarker (c : Cursor) : Bool :=
  c.column == 0 && startsBlank (c.rest.drop 3) &&
    (['-', '-', '-'].isPrefixOf c.rest || ['.', '.', '.'].isPrefixOf c.rest)

def Cursor.atEnd (c : Cursor) : Bool := c.rest.isEmpty || c.atMarker

/-- The next characters are this mark and a blank. -/
def Cursor.atMark (mark : Char) (c : Cursor) : Bool :=
  c.rest.head? == some mark && startsBlank (c.rest.drop 1)

def peek? : Reader (Option Char) := do return (← get).rest.head?

def take (n : Nat) : Reader (List Char) := do
  let c ← get
  set (c.advance n)
  return c.rest.take n

def takeAll (p : Char → Bool) : Reader (List Char) := do
  take ((← get).rest.takeWhile p).length

def takeSpaces : Reader Unit := do let _ ← takeAll (· == ' ')

/-- Says whether a key may begin here. -/
def setFresh (fresh : Bool) : Reader Unit := modify fun c => { c with fresh }

/-- Takes a line break and gives what it counts as: a line feed, unless it is a separator. -/
def takeBreak : Reader Char := do
  match (← take 1) with
  | '\u2028' :: _ => return '\u2028'
  | '\u2029' :: _ => return '\u2029'
  | _ => return '\n'

/-- Takes spaces, comments and line breaks, at most so many lines. Outside of brackets a key may
begin on a new line. -/
def skipBlanks (inBrackets : Bool) : Nat → Reader Unit
  | 0 => return
  | n + 1 => do
    takeSpaces
    if (← peek?) == some '#' then
      let _ ← takeAll fun c => !isBreak c
    if (← peek?).any isBreak then
      let _ ← take 1
      unless inBrackets do setFresh true
      skipBlanks inBrackets n

/-- Takes all spaces, comments and line breaks. -/
def skip (inBrackets : Bool) : Reader Unit := do
  skipBlanks inBrackets ((← get).rest.length + 1)

end ChatMarkup.Yaml
