import ChatMarkup.CharRef.Decode
import ChatMarkup.Markdown.Block
import ChatMarkup.Text.Blank

/-!
# From Markdown to a document tree

Spans and blocks become nodes. Character references in text are decoded here, each text on its
own. Raw HTML and pieces of an unknown kind become unknown nodes; blank lines become nothing.
Neighbouring texts may be joined, which changes how many text nodes there are, not what they say.
-/
namespace ChatMarkup.Markdown
open Text

def decoded (raw : String) : String := String.ofList (CharRef.decodeText raw.toList)

namespace Span

mutual

/-- What a span says without any markup, as the description of an image does. -/
def plainText : Span → String
  | .text raw => decoded raw
  | .softBreak => "\n"
  | .lineBreak => ""
  | .styled _ children => plainTexts children
  | .code raw => raw
  | .link _ _ children => plainTexts children
  | .image _ _ label => plainTexts label
  | .html raw => raw
  | .other _ (some raw) _ => raw
  | .other _ none children => plainTexts children

def plainTexts : List Span → String
  | [] => ""
  | s :: rest => plainText s ++ plainTexts rest

end

end Span

/-- Puts a node before others; two texts that meet become one. -/
def joinBefore (n : Node) (rest : List Node) : List Node :=
  match n, rest with
  | .leaf (.text a) [], .leaf (.text b) [] :: rest => Node.text (a ++ b) :: rest
  | n, rest => n :: rest

/-- The nodes with each run of neighbouring texts made one text. -/
def joinTexts (nodes : List Node) : List Node := nodes.foldr joinBefore []

/-- The nodes, with neighbouring texts joined if that is wanted. -/
def settleTexts (join : Bool) (nodes : List Node) : List Node :=
  if join then joinTexts nodes else nodes

def Style.container : Style → Container
  | .strong => .strong
  | .emphasis => .emphasis
  | .strikethrough => .strikethrough

def htmlNode (raw : String) : Node := .unknown "html" (some raw) [] []

namespace Span

mutual

/-- The node for a span. -/
def toNode (join : Bool) : Span → Node
  | .text raw => Node.text (decoded raw)
  | .softBreak => Node.text "\n"
  | .lineBreak => .leaf .lineBreak []
  | .styled style children => .container style.container (settleTexts join (toNodes join children)) []
  | .code raw => .leaf (.code raw) []
  | .link url title children =>
    .container (.link url title) (settleTexts join (toNodes join children)) []
  | .image url title label => .leaf (.image url (some (plainTexts label)) title) []
  | .html raw => htmlNode raw
  | .other name raw children => .unknown name raw (settleTexts join (toNodes join children)) []

def toNodes (join : Bool) : List Span → List Node
  | [] => []
  | s :: rest => toNode join s :: toNodes join rest

end

/-- The nodes for the text of a block. -/
def content (join : Bool) (spans : List Span) : List Node := settleTexts join (toNodes join spans)

end Span

/-- The language of a code block, and the rest of what its first line says about it. -/
def splitInfo (info : String) : Option String × Option String :=
  let s := trim info.toList
  let language := s.takeWhile fun c => !isBlank c
  let rest := trimStart (s.drop language.length)
  if language.isEmpty then (none, none)
  else (some (String.ofList language),
    if rest.isEmpty then none else some (String.ofList rest))

def dropLineBreak (raw : String) : String :=
  match raw.toList.reverse with
  | '\n' :: rest => String.ofList rest.reverse
  | _ => raw

/-- The rank of a heading, which is one unless it lies between one and six. -/
def headingDepth (level : Count) : Depth :=
  if 1 ≤ level.toInt && level.toInt ≤ 6 then .count level else .count (.number 1)

def rowNode (join : Bool) (cells : List (List Span)) : Node :=
  .container .tableRow
    (cells.map fun cell => .container .tableCell (Span.content join cell) []) []

namespace Block

mutual

def toNodes (join : Bool) : Block (List Span) → List Node
  | .paragraph content => [.container .paragraph (Span.content join content) []]
  | .heading level content =>
    [.container (.heading (headingDepth level)) (Span.content join content) []]
  | .codeBlock raw info =>
    let (language, more) := splitInfo (info.getD "")
    [.leaf (.codeBlock (dropLineBreak raw) language more) []]
  | .blockQuote children => [.container .blockQuote (allToNodes join children) []]
  | .list ordered start tight items =>
    let first := if ordered then some (start.getD (.number 1)) else none
    [.container (.list ordered first (!tight)) (itemsToNodes join items) []]
  | .table header rows align =>
    [.table [] (header.map (rowNode join)) (rows.map (rowNode join)) align []]
  | .thematicBreak => [.leaf .thematicBreak []]
  | .html raw => [htmlNode raw]
  | .blankLine => []
  | .other name raw children => [.unknown name raw (allToNodes join children) []]

def allToNodes (join : Bool) : List (Block (List Span)) → List Node
  | [] => []
  | b :: rest => toNodes join b ++ allToNodes join rest

def itemsToNodes (join : Bool) : List (List (Block (List Span))) → List Node
  | [] => []
  | item :: rest =>
    .container (.listItem none) (allToNodes join item) [] :: itemsToNodes join rest

end

end Block

end ChatMarkup.Markdown
