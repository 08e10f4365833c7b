import ChatMarkup.Markup.Token

/-!
# Open tags

Which tags are still open at the end of a markup. A closing tag ends the innermost open tag of its
name, whatever the case; one that ends nothing is ignored. Tags that close themselves, and
elements that hold nothing, never stay open. Open tags are kept with their full text, so that they
can be opened again elsewhere with the same attributes.
-/
namespace ChatMarkup.Markup
open Text

structure OpenTag where
  name : List Char
  text : List Char
deriving DecidableEq, Repr

/-- What a tag token says: it ends an element, or begins one with this full text. -/
inductive TagRole where
  | closes (name : List Char)
  | opens (tag : OpenTag)
  | stands
deriving DecidableEq, Repr

def inName (c : Char) : Bool := c.isAlphanum || c == '-'

/-- The tag name at the start of a text. It begins with a letter, and a blank, slash or closing
bracket follows it. -/
def tagName? : List Char → Option (List Char)
  | [] => none
  | c :: rest =>
    if c.isAlpha then
      match rest.dropWhile inName with
      | d :: _ =>
        if isBlank d || d == '/' || d == '>' then some (c :: rest.takeWhile inName) else none
      | [] => none
    else none

def voidElements : List (List Char) :=
  ["br".toList, "hr".toList, "img".toList, "wbr".toList]

def lowerName (name : List Char) : List Char := name.map Char.toLower

/-- The role of a token among the tags; text and tags without a proper name merely stand there. -/
def tagRole (token : List Char) : TagRole :=
  if isTag token then
    match token with
    | '<' :: '/' :: rest => match tagName? rest with
      | some name => .closes name
      | none => .stands
    | '<' :: rest => match tagName? rest with
      | some name =>
        if endsWith ['/', '>'] token || voidElements.contains (lowerName name) then .stands
        else .opens { name, text := token }
      | none => .stands
    | _ => .stands
  else .stands

/-- The open tags after a token, innermost first. -/
def track (stack : List OpenTag) (token : List Char) : List OpenTag :=
  match tagRole token with
  | .closes name => stack.eraseP fun t => lowerName t.name == lowerName name
  | .opens tag => tag :: stack
  | .stands => stack

/-- The tags still open at the end of a markup, in the order in which they were opened. -/
def openTags (s : List Char) : List OpenTag := ((tokens s).foldl track []).reverse

def closingTags (tags : List OpenTag) : List Char :=
  tags.reverse.flatMap fun t => ['<', '/'] ++ t.name ++ ['>']

/-- The tags that open the given ones again, with all their attributes. -/
def openingTags (tags : List OpenTag) : List Char := tags.flatMap (·.text)

def balance (s : List Char) : List Char := s ++ closingTags (openTags s)

end ChatMarkup.Markup
