import ChatMarkup.Text.Blank
import ChatMarkup.Text.Search

/-!
# Text in angle brackets

An angle bracket may begin an address that is its own text, a mail address, or a piece of raw
HTML: a tag, a comment, an instruction, a declaration or a character data section. Each reader is
given the text after the opening bracket and gives what follows the closing one.
-/
namespace ChatMarkup.Markdown
open Text

def isSchemeChar (c : Char) : Bool := c.isAlphanum || c == '+' || c == '.' || c == '-'

/-- A scheme with its colon, after which the address goes on. -/
def scheme? (s : List Char) : Option (List Char × List Char) :=
  let scheme := s.takeWhile isSchemeChar
  match scheme, s.drop scheme.length with
  | c :: more, ':' :: rest =>
    if c.isAlpha && 1 ≤ more.length && more.length ≤ 31 then some (scheme ++ [':'], rest) else none
  | _, _ => none

def isAddressChar (c : Char) : Bool := 32 < c.toNat && c != '<' && c != '>'

def bracketedAddress? (s : List Char) : Option (List Char × List Char) :=
  (scheme? s).bind fun (scheme, rest) =>
    let body := rest.takeWhile isAddressChar
    match rest.drop body.length with
    | '>' :: after => some (scheme ++ body, after)
    | _ => none

def isMailboxChar (c : Char) : Bool :=
  c.isAlphanum || ".!#$%&'*+/=?^_\x60\x7b|\x7d~-".toList.contains c

/-- A part of a host name: letters, digits and inner hyphens, at most 63 of them. -/
def isHostLabel (label : List Char) : Bool :=
  !label.isEmpty && label.length ≤ 63 && label.all (fun c => c.isAlphanum || c == '-') &&
    label.head? != some '-' && label.getLast? != some '-'

def bracketedMail? (s : List Char) : Option (List Char × List Char) :=
  let mailbox := s.takeWhile isMailboxChar
  match s.drop mailbox.length with
  | '@' :: rest =>
    let host := rest.takeWhile fun c => c.isAlphanum || c == '-' || c == '.'
    match rest.drop host.length with
    | '>' :: after =>
      if !mailbox.isEmpty && (splitAt '.' host).all isHostLabel then
        some (mailbox ++ '@' :: host, after)
      else none
    | _ => none
  | _ => none

/-- The name of a tag: a letter, then letters, digits and hyphens. -/
def tagName? (s : List Char) : Option (List Char × List Char) :=
  match s with
  | c :: rest =>
    if c.isAlpha then
      let more := rest.takeWhile fun c => c.isAlphanum || c == '-'
      some (c :: more, rest.drop more.length)
    else none
  | [] => none

def isAttributeStart (c : Char) : Bool := c.isAlpha || c == '_' || c == ':'

def isAttributeChar (c : Char) : Bool :=
  c.isAlphanum || c == '_' || c == ':' || c == '.' || c == '-'

def isBareValueChar (c : Char) : Bool :=
  !isBlank c && !"!\"'=<>\x60".toList.contains c

def afterAttributeValue? (s : List Char) : Option (List Char) :=
  match s with
  | '"' :: rest => (cutAt? ['"'] rest).map (·.2)
  | '\'' :: rest => (cutAt? ['\''] rest).map (·.2)
  | s =>
    let value := s.takeWhile isBareValueChar
    if value.isEmpty then none else some (s.drop value.length)

/-- What follows one attribute, which is set off by blanks; its value is optional. -/
def afterAttribute? (s : List Char) : Option (List Char) :=
  match s with
  | b :: _ =>
    if isBlank b then
      match trimStart s with
      | c :: rest =>
        if isAttributeStart c then
          let named := rest.dropWhile isAttributeChar
          match trimStart named with
          | '=' :: value => some ((afterAttributeValue? (trimStart value)).getD named)
          | _ => some named
        else none
      | [] => none
    else none
  | [] => none

/-- What follows a run of attributes, at most so many. -/
def afterAttributes : Nat → List Char → List Char
  | 0, s => s
  | n + 1, s =>
    match afterAttribute? s with
    | some rest => afterAttributes n rest
    | none => s

def afterOpenTag? (s : List Char) : Option (List Char) :=
  (tagName? s).bind fun (_, rest) =>
    match trimStart (afterAttributes rest.length rest) with
    | '/' :: '>' :: after => some after
    | '>' :: after => some after
    | _ => none

/-- What follows a closing tag, given after its slash. -/
def afterCloseTag? (s : List Char) : Option (List Char) :=
  (tagName? s).bind fun (_, rest) =>
    match trimStart rest with
    | '>' :: after => some after
    | _ => none

/-- What follows a comment, given after its two hyphens: its body is not empty, holds no two
hyphens in a row, and does not begin like an end. -/
def afterComment? (s : List Char) : Option (List Char) :=
  match s, cutAt? ['-', '-'] s with
  | '>' :: _, _ => none
  | '-' :: '>' :: _, _ => none
  | _, some (_ :: _, '>' :: after) => some after
  | _, _ => none

/-- What follows the first occurrence of an end that does not come at once. -/
def afterLater? (ending s : List Char) : Option (List Char) :=
  match s with
  | _ :: rest => (cutAt? ending rest).map (·.2)
  | [] => none

def afterHtml? (s : List Char) : Option (List Char) :=
  match s with
  | '/' :: rest => afterCloseTag? rest
  | '?' :: rest => afterLater? ['?', '>'] rest
  | '!' :: '-' :: '-' :: rest => afterComment? rest
  | '!' :: '[' :: 'C' :: 'D' :: 'A' :: 'T' :: 'A' :: rest => afterLater? [']', ']', '>'] rest
  | '!' :: c :: rest => if c.isUpper then afterLater? ['>'] rest else none
  | s => afterOpenTag? s

/-- The text after an opening bracket may be raw HTML: it begins like a tag, a declaration or an
instruction. -/
def mayBeHtml (s : List Char) : Bool :=
  match s with
  | '!' :: _ => true
  | '?' :: _ => true
  | '/' :: c :: _ => c.isAlpha
  | c :: _ => c.isAlpha
  | [] => false

end ChatMarkup.Markdown
