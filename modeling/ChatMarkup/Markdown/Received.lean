import ChatMarkup.Markdown.Block

/-!
# Markdown pieces as data

Spans and blocks may also come ready-made, as objects that name their type. What is missing or
ill-formed in such an object counts as absent, pieces that are no objects are passed over, and
types without a meaning here are kept under their name.
-/
namespace ChatMarkup.Markdown

def textOf? : Value → Option String
  | .text s => some s
  | _ => none

/-- The members of an object; other values have none. -/
def membersOf : Value → Members
  | .object ms => ms
  | _ => []

def memberText? (ms : Members) (key : String) : Option String := (ms.get? key).bind textOf?

def memberText (ms : Members) (key : String) : String := (memberText? ms key).getD ""

def attributes (ms : Members) : Members := ((ms.get? "attrs").map membersOf).getD []

def typeName (ms : Members) : String := memberText ms "type"

def Style.ofName? : String → Option Style
  | "strong" => some .strong
  | "emphasis" => some .emphasis
  | "strikethrough" => some .strikethrough
  | _ => none

/-- A span from the members of its object, where the spans in it have been read both as content
and as a description. -/
def Span.ofMembers (ms : Members) (children label : List Span) : Span :=
  let attrs := attributes ms
  match Style.ofName? (typeName ms) with
  | some style => .styled style children
  | none =>
    match typeName ms with
    | "text" => .text (memberText ms "raw")
    | "softbreak" => .softBreak
    | "linebreak" => .lineBreak
    | "codespan" => .code (memberText ms "raw")
    | "link" => .link (memberText attrs "url") (memberText? attrs "title") children
    | "image" => .image (memberText attrs "url") (memberText? attrs "title") label
    | "inline_html" => .html (memberText ms "raw")
    | name => .other name (memberText? ms "raw") children

/-- A span of a description: all that counts is its own raw text, or else the spans in it. -/
def Span.describing (ms : Members) (label : List Span) : Span :=
  match typeName ms with
  | "softbreak" => .softBreak
  | "text" => .text (memberText ms "raw")
  | name => .other name (memberText? ms "raw") label

mutual

/-- The spans in a value, read as content and as a description. -/
def spansOf : Value → List Span × List Span
  | .list items => spansOfAll items
  | _ => ([], [])

def spansOfAll : List Value → List Span × List Span
  | [] => ([], [])
  | .object ms :: rest =>
    let inner := spansOfChildren ms
    let more := spansOfAll rest
    (Span.ofMembers ms inner.1 inner.2 :: more.1, Span.describing ms inner.2 :: more.2)
  | _ :: rest => spansOfAll rest

def spansOfChildren : List (String × Value) → List Span × List Span
  | [] => ([], [])
  | (key, v) :: rest => if key == "children" then spansOf v else spansOfChildren rest

end

def Span.ofValue (v : Value) : List Span := (spansOf v).1

def objectsOf : Value → List Members
  | .list items => items.filterMap fun
    | .object ms => some ms
    | _ => none
  | _ => []

def childObjects (ms : Members) : List Members := ((ms.get? "children").map objectsOf).getD []

def childSpans (ms : Members) : List Span := ((ms.get? "children").map Span.ofValue).getD []

def cellsOf (row : Members) : List (List Span) :=
  ((childObjects row).filter fun cell => typeName cell == "table_cell").map childSpans

def alignmentsOf (row : Members) : List Value :=
  (childObjects row).map fun cell => ((attributes cell).get? "align").getD .null

/-- A table from its sections: the last header counts, and the rows of all bodies. -/
def tableOf (sections : List Members) : Block (List Span) :=
  let headers := sections.filter fun s => typeName s == "table_head"
  let bodies := sections.filter fun s => typeName s == "table_body"
  .table (headers.getLast?.map cellsOf) ((bodies.flatMap childObjects).map cellsOf)
    ((headers.getLast?.map alignmentsOf).getD [])

def listOf (ms : Members) (items : List (List (Block (List Span)))) : Block (List Span) :=
  let attrs := attributes ms
  let tight := (ms.get? "tight").getD ((attrs.get? "tight").getD (.bool true))
  let start := ((attrs.get? "start").bind Count.ofValue?).getD (.number 1)
  .list (((attrs.get? "ordered").map Value.isGiven).getD false) (some start) tight.isGiven items

/-- A block from the members of its object, where the blocks in it have been read, and those in
each of its items. -/
def Block.ofMembers (ms : Members) (children : List (Block (List Span)))
    (items : List (List (Block (List Span)))) : Block (List Span) :=
  let attrs := attributes ms
  match typeName ms with
  | "paragraph" => .paragraph (childSpans ms)
  | "block_text" => .paragraph (childSpans ms)
  | "heading" =>
    .heading (((attrs.get? "level").bind Count.ofValue?).getD (.number 1)) (childSpans ms)
  | "block_code" => .codeBlock (memberText ms "raw") (memberText? attrs "info")
  | "block_quote" => .blockQuote children
  | "list" => listOf ms items
  | "table" => tableOf (childObjects ms)
  | "thematic_break" => .thematicBreak
  | "block_html" => .html (memberText ms "raw")
  | "blank_line" => .blankLine
  | name => .other name (memberText? ms "raw") children

mutual

/-- The blocks in a value, and for each of them the blocks in it. -/
def blocksOf : Value → List (Block (List Span)) × List (List (Block (List Span)))
  | .list values => blocksOfAll values
  | _ => ([], [])

def blocksOfAll : List Value → List (Block (List Span)) × List (List (Block (List Span)))
  | [] => ([], [])
  | .object ms :: rest =>
    let inner := blocksOfChildren ms
    let more := blocksOfAll rest
    (Block.ofMembers ms inner.1 inner.2 :: more.1, inner.1 :: more.2)
  | _ :: rest => blocksOfAll rest

def blocksOfChildren :
    List (String × Value) → List (Block (List Span)) × List (List (Block (List Span)))
  | [] => ([], [])
  | (key, v) :: rest => if key == "children" then blocksOf v else blocksOfChildren rest

end

def Block.ofValue (v : Value) : List (Block (List Span)) := (blocksOf v).1

end ChatMarkup.Markdown
