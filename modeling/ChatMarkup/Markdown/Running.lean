import ChatMarkup.Markdown.Angle
import ChatMarkup.Markdown.Delimiter
import ChatMarkup.Markdown.Link

/-!
# Running text

Running text is read from left to right. At each place at most one kind of span can begin, by the
character that stands there; where none does, or its end is missing, the character is text. Links
and struck text are read again inside. Emphasis is settled when the whole text has been seen.
-/
namespace ChatMarkup.Markdown
open Text

/-- What surrounds a running text: the definitions of its document, whether tildes strike text
out, and whether it stands in a link or in the description of an image. -/
structure Scope where
  definitions : Definitions
  strikethrough : Bool
  inLink : Bool := false
  inImage : Bool := false

/-- What a reader finds at a place: nothing, a character that stands by itself, or pieces with the
number of characters they take. -/
inductive Found where
  | nothing
  | alone
  | pieces (found : List Piece) (length : Nat) (inLink : Bool)

def textSpan (s : List Char) : Span := .text (String.ofList s)

def Found.one (scope : Scope) (s : Span) (length : Nat) : Found :=
  .pieces [.span s] length scope.inLink

/-- The characters that a run of escapes stands for. -/
def escapedRun : List Char → List Char
  | '\\' :: c :: rest => if isAsciiPunctuation c then c :: escapedRun rest else []
  | _ => []

def blanksAhead (s : List Char) : Nat := (s.takeWhile isBlank).length

/-- After a backslash: escaped punctuation, or a line that ends. -/
def escapeAt (scope : Scope) (s : List Char) : Found :=
  match s, escapedRun s with
  | '\\' :: '\n' :: rest, _ => Found.one scope .lineBreak (2 + blanksAhead rest)
  | _, [] => .nothing
  | _, run => Found.one scope (textSpan run) (2 * run.length)

/-- At a space or line break: two spaces or more before the end of a line break it, fewer do not. -/
def lineEndAt (scope : Scope) (s : List Char) : Found :=
  let spaces := (s.takeWhile (· == ' ')).length
  match s.drop spaces with
  | '\n' :: rest =>
    Found.one scope (if 2 ≤ spaces then .lineBreak else .softBreak) (spaces + 1 + blanksAhead rest)
  | _ => .nothing

def backticksAhead (s : List Char) : Nat := (s.takeWhile (· == '\x60')).length

/-- How far it is to a run of exactly `n` backticks. The second argument tells that the text begins
inside a run. -/
def codeLength? (n : Nat) : Bool → List Char → Option Nat
  | _, [] => none
  | inRun, c :: rest =>
    if c == '\x60' then
      if !inRun && backticksAhead (c :: rest) == n then some 0
      else (codeLength? n true rest).map (· + 1)
    else (codeLength? n false rest).map (· + 1)

/-- The text with each line break in it, and the spaces around, as a single space. The first
argument holds the spaces and line breaks just seen, the last one first. -/
def joinLines : List Char → List Char → List Char
  | gap, [] => if gap.contains '\n' then [' '] else gap.reverse
  | gap, c :: rest =>
    if c == ' ' || c == '\n' then joinLines (c :: gap) rest
    else (if gap.contains '\n' then [' '] else gap.reverse) ++ c :: joinLines [] rest

/-- The code that a code span shows: without line breaks, and without one space on either side if
there are two and anything between. -/
def shownCode (s : List Char) : List Char :=
  let code := joinLines [] s
  if !(trim code).isEmpty && code.head? == some ' ' && code.getLast? == some ' ' then
    (code.drop 1).dropLast
  else code

/-- At a backtick: a code span, or backticks without a partner. -/
def codeAt (scope : Scope) (s : List Char) : Found :=
  let n := backticksAhead s
  match codeLength? n false (s.drop n) with
  | some length =>
    Found.one scope (.code (String.ofList (shownCode ((s.drop n).take length)))) (2 * n + length)
  | none => Found.one scope (textSpan (s.take n)) n

/-- An address that is its own text; inside a link it is text only. -/
def ownAddress (scope : Scope) (start shown : List Char) (length : Nat) : Found :=
  if scope.inLink then Found.one scope (textSpan ('<' :: shown ++ ['>'])) length
  else Found.one scope (.link (address (start ++ shown)) none [textSpan shown]) length

def opensAnchor (html : List Char) : Bool :=
  match html with
  | '<' :: c :: d :: _ => (c == 'a' || c == 'A') && (d == ' ' || d == '>')
  | _ => false

def closesAnchor (html : List Char) : Bool :=
  match html with
  | '<' :: '/' :: rest => opensAnchor ('<' :: rest)
  | _ => false

/-- At an angle bracket: raw HTML. A link of its own counts as a link for what follows. -/
def htmlAt (scope : Scope) (s : List Char) : Found :=
  match afterHtml? (s.drop 1) with
  | some rest =>
    let html := s.take (s.length - rest.length)
    .pieces [.span (.html (String.ofList html))] html.length
      (opensAnchor html || (scope.inLink && !closesAnchor html))
  | none => .nothing

def addressAt (scope : Scope) (s : List Char) : Found :=
  match bracketedAddress? (s.drop 1) with
  | some (shown, _) => ownAddress scope [] shown (shown.length + 2)
  | none => .nothing

def angleAt (scope : Scope) (s : List Char) : Found :=
  match addressAt scope s with
  | .nothing =>
    match bracketedMail? (s.drop 1) with
    | some (shown, _) => ownAddress scope "mailto:".toList shown (shown.length + 2)
    | none => htmlAt scope s
  | found => found

/-- At an asterisk or underscore: the whole run of that character. -/
def runAt (scope : Scope) (before : Option Char) (marker : Char) (s : List Char) : Found :=
  let length := (s.takeWhile (· == marker)).length
  .pieces [.run (Run.between before marker length (s.drop length).head?)] length scope.inLink

/-- The first code span, address or tag that begins before the end of a link text, if it ends
behind it: then the brackets are no link. The number counts the characters up to that end, and
`passed` holds those before, the last one first. -/
def crossing? (scope : Scope) (passed : List Char) : Nat → List Char → Option Found
  | 0, _ => none
  | _ + 1, [] => none
  | n + 1, c :: rest =>
    let across (found : Found) : Option Found :=
      match found with
      | .pieces ps length _ =>
        if length ≤ n then none
        else some (.pieces (.span (textSpan passed.reverse) :: ps) (passed.length + length)
          scope.inLink)
      | _ => none
    if c == '\x60' then across (codeAt scope (c :: rest))
    else if c == '<' && (scheme? (rest.take n)).isSome then across (addressAt scope (c :: rest))
    else if c == '<' && mayBeHtml (rest.take n) then across (htmlAt scope (c :: rest))
    else crossing? scope (c :: passed) n rest

/-- The target of a link whose text has ended, and what follows the link. The label is the text of
the link if that can be one. -/
def targetAfter? (definitions : Definitions) (label : Option (List Char)) (rest : List Char) :
    Option (Target × List Char) :=
  let direct := match rest with
    | '(' :: inside => target? inside
    | _ => none
  match direct with
  | some found => some found
  | none =>
    let (label, rest) := match rest with
      | '[' :: inside =>
        match label? labelLimit inside with
        | some (second, rest) => (if second.isEmpty then label else some second, rest)
        | none => (label, rest)
      | _ => (label, rest)
    label.bind fun l => (definitions.lookup (labelKey l)).map fun target => (target, rest)

/-- At a bracket: a link, or an image if an exclamation mark precedes it. The last argument is the
text after the bracket. -/
def linkAt (inner : Scope → List Char → List Span) (scope : Scope) (image : Bool)
    (body : List Char) : Found :=
  let marker := if image then ['!', '['] else ['[']
  if if image then scope.inImage else scope.inLink then
    Found.one scope (textSpan marker) marker.length
  else
    let label := label? labelLimit body
    match label.or (bracketed? 0 body) with
    | none => .alone
    | some (text, rest) =>
      let inside := body.length - rest.length
      match crossing? scope marker.reverse inside body with
      | some found => found
      | none =>
        match targetAfter? scope.definitions (label.map (·.1)) rest with
        | none => .alone
        | some (target, after) =>
          let span :=
            if image then .image target.url target.title (inner { scope with inImage := true } text)
            else .link target.url target.title (inner { scope with inLink := true } text)
          Found.one scope span (marker.length + body.length - after.length)

/-- How far it is to the tildes that end struck text: two of them, close behind a character, and
no third. A tilde with a backslash is such a character. -/
def struckLength? : Option Char → List Char → Option Nat
  | _, [] => none
  | before, c :: rest =>
    let ends (s : List Char) : Bool :=
      match s with
      | '~' :: '~' :: after => after.head? != some '~'
      | _ => false
    let slashes := ((c :: rest).takeWhile (· == '\\')).length
    if before != some '\\' && slashes % 2 == 1 && ((c :: rest).drop slashes).head? == some '~' &&
        ends ((c :: rest).drop (slashes + 1)) then some (slashes + 1)
    else if !isBlank c && c != '~' && ends rest then some 1
    else (struckLength? (some c) rest).map (· + 1)

/-- At two tildes close before a character: struck text. -/
def struckAt (inner : Scope → List Char → List Span) (scope : Scope) (s : List Char) : Found :=
  match s with
  | '~' :: '~' :: c :: rest =>
    if isBlank c || c == '~' then .nothing
    else match struckLength? (some '~') (c :: rest) with
      | none => .alone
      | some length =>
        Found.one scope (.styled .strikethrough (inner scope ((c :: rest).take length)))
          (length + 4)
  | _ => .nothing

/-- What is found at a place, by the character there. The second argument is the character
before. -/
def findAt (inner : Scope → List Char → List Span) (scope : Scope) (before : Option Char)
    (s : List Char) : Found :=
  match s with
  | '\\' :: _ => escapeAt scope s
  | '\x60' :: _ => codeAt scope s
  | '*' :: _ => runAt scope before '*' s
  | '_' :: _ => runAt scope before '_' s
  | '!' :: '[' :: body => linkAt inner scope true body
  | '[' :: body => linkAt inner scope false body
  | '<' :: _ => angleAt scope s
  | ' ' :: _ => lineEndAt scope s
  | '\n' :: _ => lineEndAt scope s
  | '~' :: _ => if scope.strikethrough then struckAt inner scope s else .nothing
  | _ => .nothing

/-- The plain text that has gathered, as a piece; it is given last character first. -/
def gathered (hole : List Char) : List Piece :=
  if hole.isEmpty then [] else [.span (textSpan hole.reverse)]

/-- The pieces of a text. The number counts characters that are already taken, then come the
character before, and the plain text gathered so far, last character first. -/
def pieces (inner : Scope → List Char → List Span) :
    Scope → Nat → Option Char → List Char → List Char → List Piece
  | _, _, _, hole, [] => gathered hole
  | scope, skip + 1, _, hole, c :: rest => pieces inner scope skip (some c) hole rest
  | scope, 0, before, hole, c :: rest =>
    match findAt inner scope before (c :: rest) with
    | .nothing => pieces inner scope 0 (some c) (c :: hole) rest
    | .alone =>
      gathered hole ++ .span (textSpan [c]) :: pieces inner scope 0 (some c) [] rest
    | .pieces found length inLink =>
      gathered hole ++ found ++ pieces inner { scope with inLink } (length - 1) (some c) [] rest

/-- The spans of a text, read inside one another at most so deep. -/
def spansWithin : Nat → Scope → List Char → List Span
  | 0, _, s => [textSpan s]
  | depth + 1, scope, s =>
    if s.isEmpty then [textSpan []] else resolve (pieces (spansWithin depth) scope 0 none [] s)

def isTrimmed (c : Char) : Bool := c == ' ' || c == '\n' || c == '\r' || c == '\t' || c.toNat == 12

/-- The spans of the text of a block. A span is always longer than the text inside it, so the
length of the text bounds the depth. -/
def spansOfText (definitions : Definitions) (strikethrough : Bool) (s : List Char) : List Span :=
  let text := dropEnd isTrimmed (s.dropWhile isTrimmed)
  spansWithin (text.length + 1) { definitions, strikethrough } text

end ChatMarkup.Markdown
