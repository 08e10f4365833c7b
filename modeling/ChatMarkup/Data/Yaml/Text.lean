import ChatMarkup.Data.Yaml.Cursor
import ChatMarkup.Text.Digit

/-!
# Scalars as they are written in YAML

A scalar is written plainly, in quotation marks, or as an indented block below a bar or a greater
sign. Where it goes on over several lines, a single line break counts as a space and further ones
stand for themselves; only below a bar all line breaks are kept.
-/
namespace ChatMarkup.Yaml

/-- Line breaks within a scalar, as they are read: the first of them is a space if it is alone. -/
def folded (first : Char) (others : List Char) : List Char :=
  (if first != '\n' then [first] else if others.isEmpty then [' '] else []) ++ others

/-- Takes blanks of a kind and line breaks, at most so many, and gives the line breaks; fails at the
end of a document if that must not come here. -/
def takeBreaks (strict : Bool) (isSpace : Char → Bool) : Nat → Reader (List Char)
  | 0 => return []
  | n + 1 => do
    if (← get).atMarker then
      if strict then failure else return []
    let _ ← takeAll isSpace
    if (← peek?).any isBreak then
      let c ← takeBreak
      return c :: (← takeBreaks strict isSpace n)
    else return []

/-- The length of the part of a plain scalar that a text begins with; it has no blanks in it. -/
def plainLength (inBrackets : Bool) : List Char → Nat
  | [] => 0
  | c :: rest =>
    let ends := isBlank c ||
      (c == ':' && (startsBlank rest || (inBrackets && rest.head?.any (",[]\x7b\x7d".toList.contains ·)))) ||
      (inBrackets && ",?[]\x7b\x7d".toList.contains c)
    if ends then 0 else plainLength inBrackets rest + 1

/-- What stands between the parts of a plain scalar; nothing if a document ends here. -/
def plainGap : Reader (List Char) := do
  let spaces ← takeAll (· == ' ')
  if (← peek?).any isBreak then
    let first ← takeBreak
    setFresh true
    let others ← takeBreaks false (· == ' ') ((← get).rest.length + 1)
    return if (← get).atMarker then [] else folded first others
  else return spaces

/-- Takes a plain scalar that goes on as far as lines are indented enough, at most so many parts. -/
def plainParts (inBrackets : Bool) (indent : Nat) : Nat → Reader (List Char)
  | 0 => return []
  | n + 1 => do
    let length := plainLength inBrackets (← get).rest
    if length == 0 || (← peek?) == some '#' then return []
    setFresh false
    let part ← take length
    let gap ← plainGap
    let c ← get
    if gap.isEmpty || c.rest.head? == some '#' || (!inBrackets && c.column < indent) then
      return part
    let more ← plainParts inBrackets indent n
    return if more.isEmpty then part else part ++ gap ++ more

def isIndicator (c : Char) : Bool :=
  "-?:,[]\x7b\x7d#&*!|>'\"%@\x60".toList.contains c

def startsPlain (inBrackets : Bool) (s : List Char) : Bool :=
  match s with
  | [] => false
  | c :: rest =>
    (!isBlank c && !isIndicator c) ||
      (!startsBlank rest && (c == '-' || (!inBrackets && (c == '?' || c == ':'))))

def escapes : List (Char × Nat) :=
  [('0', 0), ('a', 7), ('b', 8), ('t', 9), ('\t', 9), ('n', 10), ('v', 11), ('f', 12), ('r', 13),
   ('e', 27), (' ', 32), ('"', 34), ('\\', 92), ('/', 47), ('N', 0x85), ('_', 0xA0), ('L', 0x2028),
   ('P', 0x2029)]

/-- How many digits follow the letter of an escape. -/
def escapeLengths : List (Char × Nat) := [('x', 2), ('u', 4), ('U', 8)]

def takeEscape : Reader (List Char) := do
  let letter ← take 1
  match letter with
  | [c] =>
    match escapes.lookup c, escapeLengths.lookup c with
    | some n, _ => return [Char.ofNat n]
    | _, some length =>
      let digits := (← take length).filterMap Text.hexDigit?
      if digits.length == length then return [Char.ofNat (Text.ofDigits 16 digits)] else failure
    | _, _ => failure
  | _ => failure

def takeQuotedGap : Reader (List Char) := do
  let spaces ← takeAll fun c => c == ' ' || c == '\t'
  if (← peek?).any isBreak then
    let first ← takeBreak
    let others ←
      takeBreaks true (fun c => c == ' ' || c == '\t') ((← get).rest.length + 1)
    return folded first others
  else return spaces

/-- Takes the rest of a scalar in quotation marks, at most so many characters. -/
def quotedRest (mark : Char) : Nat → Reader (List Char)
  | 0 => failure
  | n + 1 => do
    match (← get).rest with
    | [] => failure
    | c :: next =>
      if isBlank c then
        let gap ← takeQuotedGap
        return gap ++ (← quotedRest mark n)
      else if c == mark then
        let _ ← take 1
        if mark == '\'' && next.head? == some mark then
          let _ ← take 1
          return mark :: (← quotedRest mark n)
        else return []
      else if mark == '"' && c == '\\' then
        let _ ← take 1
        if (← peek?).any isBreak then
          let _ ← take 1
          let breaks ←
            takeBreaks true (fun c => c == ' ' || c == '\t') ((← get).rest.length + 1)
          return breaks ++ (← quotedRest mark n)
        else
          let e ← takeEscape
          return e ++ (← quotedRest mark n)
      else
        let _ ← take 1
        return c :: (← quotedRest mark n)

def quoted : Reader (List Char) := do
  match (← take 1) with
  | [mark] =>
    let s ← quotedRest mark ((← get).rest.length + 1)
    setFresh false
    return s
  | _ => failure

inductive Chomping where
  | clip
  | strip
  | keep
deriving DecidableEq, Repr

/-- The signs behind the bar or greater sign of a block: what becomes of line breaks at its end, and
how far it is indented. -/
def blockSigns : List Char → Option (Chomping × Option Nat)
  | [] => some (.clip, none)
  | s =>
    let chomping (c : Char) : Option Chomping :=
      if c == '+' then some .keep else if c == '-' then some .strip else none
    let depth (c : Char) : Option Nat := (Text.asciiDigit? c).filter (0 < ·)
    match s with
    | [c] =>
      match chomping c, depth c with
      | some k, _ => some (k, none)
      | _, some d => some (.clip, some d)
      | _, _ => none
    | [c, d] =>
      match chomping c, depth d, depth c, chomping d with
      | some k, some n, _, _ => some (k, some n)
      | _, _, some n, some k => some (k, some n)
      | _, _, _, _ => none
    | _ => none

/-- Takes blank lines before a block and gives them with the greatest column that was reached. -/
def blockLead : Nat → Reader (List Char × Nat)
  | 0 => return ([], 0)
  | n + 1 => do
    takeSpaces
    let column := (← get).column
    if (← peek?).any isBreak then
      let c ← takeBreak
      let (breaks, greatest) ← blockLead n
      return (c :: breaks, max column greatest)
    else return ([], column)

def takeIndent (indent : Nat) : Reader Unit := do
  let c ← get
  let spaces := ((c.rest.takeWhile (· == ' ')).length)
  let _ ← take (min spaces (indent - c.column))

/-- Takes lines without text and gives their line breaks. -/
def blankLines (indent : Nat) : Nat → Reader (List Char)
  | 0 => return []
  | n + 1 => do
    takeIndent indent
    if (← peek?).any isBreak then
      let c ← takeBreak
      return c :: (← blankLines indent n)
    else return []

def startsSpace (c? : Option Char) : Bool := c?.any fun c => c == ' ' || c == '\t'

/-- Takes the lines of a block, at most so many, after line breaks; gives its text and the line
breaks at its end, of which the first one ends the last line. -/
def blockLines (fold : Bool) (indent : Nat) (breaks : List Char) :
    Nat → Reader (List Char × List Char × List Char)
  | 0 => return ([], [], breaks)
  | n + 1 => do
    let here ← get
    if here.column != indent || here.rest.isEmpty then return ([], [], breaks)
    let leading := startsSpace here.rest.head?
    let text ← takeAll fun c => !isBreak c
    let lineEnd ←
      if (← get).rest.isEmpty then pure [] else do pure [← takeBreak]
    let more ← blankLines indent ((← get).rest.length + 1)
    let next ← get
    if next.column == indent && !next.rest.isEmpty then
      let joined :=
        if fold && lineEnd == ['\n'] && !leading && !startsSpace next.rest.head? then
          if more.isEmpty then [' '] else []
        else lineEnd
      let (rest, last, after) ← blockLines fold indent more n
      return (breaks ++ text ++ joined ++ rest, last, after)
    else return (breaks ++ text, lineEnd, more)

/-- Takes a block that stands within something indented so far. -/
def blockScalar (parentIndent : Nat) : Reader (List Char) := do
  let fold := (← take 1) == ['>']
  match blockSigns (← takeAll fun c => !isBlank c) with
  | none => failure
  | some (chomping, depth?) =>
    takeSpaces
    if (← peek?) == some '#' then
      let _ ← takeAll fun c => !isBreak c
    if (← peek?).any isBreak then
      let _ ← take 1
    else if (← peek?).isSome then failure
    let least := max 1 parentIndent
    let count := (← get).rest.length + 1
    let (indent, breaks) ← match depth? with
      | some depth => do
        let indent := least + depth - 1
        pure (indent, ← blankLines indent count)
      | none => do
        let (breaks, greatest) ← blockLead count
        pure (max least greatest, breaks)
    let (text, last, after) ← blockLines fold indent breaks count
    setFresh true
    return match chomping with
      | .strip => text
      | .clip => text ++ last
      | .keep => text ++ last ++ after

end ChatMarkup.Yaml
