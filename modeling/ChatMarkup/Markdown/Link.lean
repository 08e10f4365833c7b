import ChatMarkup.Markdown.Address
import ChatMarkup.Text.Blank
import ChatMarkup.Text.Case

/-!
# Parts of links

A link holds a label or a text in brackets, and a destination with a title, right behind it or in
a definition elsewhere. Each reader here takes the part off the start of a text and gives what
follows it.
-/
namespace ChatMarkup.Markdown
open Text

structure Target where
  url : String
  title : Option String := none
deriving DecidableEq, Repr

/-- The definitions of a document under their keys, in order. -/
abbrev Definitions := List (String × Target)

/-- Adds a definition unless there is one under that key. -/
def Definitions.add (defs : Definitions) (key : String) (target : Target) : Definitions :=
  if defs.any (·.1 == key) then defs else defs ++ [(key, target)]

/-- The key of a label: blanks are collapsed, and case does not matter. -/
def labelKey (label : List Char) : String := String.ofList (capitals (collapse label))

/-- The longest label, escaped characters counting once. -/
def labelLimit : Nat := 500

def label? : Nat → List Char → Option (List Char × List Char)
  | _, [] => none
  | _, ']' :: rest => some ([], rest)
  | _, '[' :: _ => none
  | 0, _ => none
  | n + 1, '\\' :: c :: rest =>
    if c == '\n' then none else (label? n rest).map fun r => ('\\' :: c :: r.1, r.2)
  | _, ['\\'] => none
  | n + 1, c :: rest => (label? n rest).map fun r => (c :: r.1, r.2)

/-- A text up to its closing bracket, where brackets in it pair up; the number counts those that
are open. -/
def bracketed? : Nat → List Char → Option (List Char × List Char)
  | _, [] => none
  | n, '\\' :: c :: rest => (bracketed? n rest).map fun r => ('\\' :: c :: r.1, r.2)
  | n, '[' :: rest => (bracketed? (n + 1) rest).map fun r => ('[' :: r.1, r.2)
  | 0, ']' :: rest => some ([], rest)
  | n + 1, ']' :: rest => (bracketed? n rest).map fun r => (']' :: r.1, r.2)
  | n, c :: rest => (bracketed? n rest).map fun r => (c :: r.1, r.2)

def isGap (c : Char) : Bool := c == ' ' || c == '\t'

def isSpacing (c : Char) : Bool := isGap c || c == '\n'

def skipSpacing (s : List Char) : List Char :=
  match s.dropWhile isGap with
  | '\n' :: rest => rest.dropWhile isGap
  | rest => rest

/-- A destination between angle brackets, given after the first of them. -/
def angled? : List Char → Option (List Char × List Char)
  | [] => none
  | '>' :: rest => some ([], rest)
  | c :: rest =>
    if c == '<' || c == '\n' || c == '\\' || c.toNat == 0 then none
    else (angled? rest).map fun r => (c :: r.1, r.2)

/-- A bare destination of a link: up to a blank or to a closing parenthesis without a partner. The
number counts the parentheses that are open. -/
def bare? : Nat → List Char → Option (List Char × List Char)
  | _, [] => none
  | n, '\\' :: c :: rest =>
    if isSpacing c then some (['\\'], c :: rest)
    else (bare? n rest).map fun r => ('\\' :: c :: r.1, r.2)
  | n, '(' :: rest => (bare? (n + 1) rest).map fun r => ('(' :: r.1, r.2)
  | 0, ')' :: rest => some ([], ')' :: rest)
  | n + 1, ')' :: rest => (bare? n rest).map fun r => (')' :: r.1, r.2)
  | n, c :: rest =>
    if isSpacing c then some ([], c :: rest)
    else (bare? n rest).map fun r => (c :: r.1, r.2)

/-- The destination of a link in its written form. -/
def destination? (s : List Char) : Option (List Char × List Char) :=
  match skipSpacing s with
  | '<' :: rest => angled? rest
  | rest => bare? 0 rest

/-- The destination of a definition in its written form: angled, or up to a blank. -/
def definedDestination? (s : List Char) : Option (List Char × List Char) :=
  match skipSpacing s with
  | '<' :: rest => angled? rest
  | rest =>
    let url := rest.takeWhile fun c => !isBlank c
    if url.isEmpty then none else some (url, rest.drop url.length)

/-- The title up to its closing mark. A mark with a backslash closes the title only if none
without one does. -/
def titleBody? (close : Char) : List Char → Option (List Char × List Char)
  | [] => none
  | '\\' :: c :: rest =>
    if isAsciiPunctuation c then
      match titleBody? close rest with
      | some r => some ('\\' :: c :: r.1, r.2)
      | none => if c == close then some (['\\'], rest) else none
    else (titleBody? close (c :: rest)).map fun r => ('\\' :: r.1, r.2)
  | c :: rest =>
    if c == close then some ([], rest)
    else if c.toNat == 0 then none
    else (titleBody? close rest).map fun r => (c :: r.1, r.2)

/-- The title after a destination, set off from it by a blank. -/
def title? (s : List Char) : Option (List Char × List Char) :=
  match s with
  | c :: _ =>
    if isSpacing c then
      let found := match s.dropWhile isSpacing with
        | '"' :: rest => titleBody? '"' rest
        | '\'' :: rest => titleBody? '\'' rest
        | '(' :: rest => titleBody? ')' rest
        | _ => none
      found.map fun r => (unescapePunctuation r.1, r.2)
    else none
  | [] => none

/-- The target that a destination and a title make; an empty title is none. -/
def targetOf (url : List Char) (title : Option (List Char)) : Target where
  url := address (unescapePunctuation url)
  title := (title.filter fun t => !t.isEmpty).map String.ofList

/-- The target of a link right behind its text, given after the opening parenthesis. -/
def target? (s : List Char) : Option (Target × List Char) :=
  match destination? s with
  | none => none
  | some (url, afterUrl) =>
    let (title, rest) := match title? afterUrl with
      | some (title, rest) => (some title, rest)
      | none => (none, afterUrl)
    match trimStart rest with
    | ')' :: rest => some (targetOf url title, rest)
    | _ => none

end ChatMarkup.Markdown
