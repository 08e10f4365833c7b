import ChatMarkup.Markdown.Line

/-!
# Link definitions

A definition gives a label its target: the label in brackets, a colon, the destination and perhaps
a title. It may be spread over several lines, but nothing else stands on them.
-/
namespace ChatMarkup.Markdown
open Text

/-- What follows the end of the line, if there are only spaces and tabs before that. -/
def afterLineEnd? (s : List Char) : Option (List Char) :=
  match s.dropWhile isGap with
  | '\n' :: rest => some rest
  | _ => none

/-- The text up to the next empty line. The first argument is the line that is being read, last
character first; `none` stands for the rest of a line whose start lies before the text. -/
def beforeEmptyLine : Option (List Char) → List Char → List Char
  | line, [] => (line.getD []).reverse
  | line, '\n' :: rest =>
    match line with
    | some seen =>
      if isEmptyLine seen then [] else seen.reverse ++ '\n' :: beforeEmptyLine (some []) rest
    | none => '\n' :: beforeEmptyLine (some []) rest
  | some seen, c :: rest => beforeEmptyLine (some (c :: seen)) rest
  | none, c :: rest => c :: beforeEmptyLine none rest

/-- The label of a definition, and what follows its colon. -/
def definitionLabel? (s : List Char) : Option (List Char × List Char) :=
  match dedented? 3 s with
  | some ('[' :: rest) =>
    match label? labelLimit rest with
    | some (label, ':' :: after) => some (label, after)
    | _ => none
  | _ => none

/-- The label of a definition that begins with a line, and what follows its colon. The label may
run on over the lines after it, so they are read too, but only where a bracket opens the line. -/
def definitionStart? (line : Line) (rest : List Line) : Option (List Char × List Char) :=
  if (dedented? 3 line).any (·.head? == some '[') then definitionLabel? (joined (line :: rest))
  else none

/-- A definition at the start of a text, given after its label: the target, and what follows. A
title counts only if nothing else stands on its line. -/
def definitionTarget? (s : List Char) : Option (Target × List Char) :=
  match definedDestination? s with
  | none => none
  | some (url, after) =>
    let titled :=
      (title? (beforeEmptyLine none after)).bind fun (title, left) =>
        let used := (beforeEmptyLine none after).length - left.length
        (afterLineEnd? (after.drop used)).map fun rest => (targetOf url (some title), rest)
    titled.or ((afterLineEnd? after).map fun rest => (targetOf url none, rest))

/-- A definition that begins with a line: its key, its target, and the lines after it. -/
def definition? (label after : List Char) (lines : List Line) :
    Option (String × Target × List Line) :=
  let key := labelKey label
  if key.isEmpty then none
  else (definitionTarget? after).map fun (target, rest) =>
    (key, target, lines.drop (lines.length - rest.count '\n'))

end ChatMarkup.Markdown
