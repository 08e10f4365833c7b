import ChatMarkup.Markdown.Block
import ChatMarkup.Markdown.Definition
import ChatMarkup.Markdown.Grid
import ChatMarkup.Markdown.Item
import ChatMarkup.Markdown.Quote

/-!
# The outline of a Markdown text

The outline is the tree of blocks, with the text of paragraphs, headings and cells still unread,
and the link definitions of the whole text. Lines are looked at one after the other; what a line
begins may take further lines. A line that begins nothing goes on with the paragraph before it, or
begins one. Quotes and list items are texts of their own and are read the same way.
-/
namespace ChatMarkup.Markdown
open Text

abbrev Draft := Block (List Char)

structure Nesting where
  level : Nat := 0
  quotes : Bool := true
  lists : Bool := true
  tables : Bool := false

/-- The level from which quotes hold no quotes directly and lists no lists. -/
def deepest : Nat := 19

def Nesting.inQuote (n : Nesting) : Nesting := { level := n.level + 1, quotes := n.level < deepest }

def Nesting.inItem (n : Nesting) : Nesting := { level := n.level + 1, lists := n.level < deepest }

/-- What has been read of a text: the blocks, last one first, and the definitions. -/
structure Progress where
  blocks : List Draft := []
  definitions : Definitions := []

namespace Progress

def add (p : Progress) (b : Draft) : Progress := { p with blocks := b :: p.blocks }

/-- The last block is a paragraph, so lines may go on with it. -/
def isOpen (p : Progress) : Bool := p.blocks.head?.any Block.isParagraph

def addLine (p : Progress) (l : Line) : Progress :=
  match p.blocks with
  | .paragraph text :: rest => { p with blocks := .paragraph (text ++ '\n' :: l) :: rest }
  | _ => p.add (.paragraph l)

def underlined (p : Progress) (level : Nat) : Option Progress :=
  match p.blocks with
  | .paragraph text :: rest =>
    some { p with blocks := .heading (.number level) text :: rest }
  | _ => none

end Progress

/-- Reads the lines of a quote or an item: given where they stand, the definitions so far and the
lines, it gives their blocks and the definitions after them. -/
abbrev Inner := Nesting → Definitions → List Line → List Draft × Definitions

def fencedLines (f : Fence) : List Line → List Line × List Line
  | [] => ([], [])
  | l :: rest =>
    if f.closedBy l then ([], rest)
    else
      let more := fencedLines f rest
      (dropUpTo f.indent (· == ' ') l :: more.1, more.2)

/-- The block that a fence opens, and the lines after it. -/
def fencedCode (f : Fence) (rest : List Line) : Draft × List Line :=
  let (code, rest) := fencedLines f rest
  let info := trim (unescapePunctuation f.info)
  (.codeBlock (String.ofList (joined code))
    (if f.info.isEmpty then none else some (String.ofList info)), rest)

def indentedCode (lines : List Line) : Draft × List Line :=
  let (code, rest) := lines.span fun l => isIndented l || isEmptyLine l
  let text := joined (code.map fun l => dropUpTo 4 (· == ' ') (expandTabTo 4 l))
  let isBreak (c : Char) : Bool := c == '\n'
  (.codeBlock (String.ofList (dropEnd isBreak (text.dropWhile isBreak))) none, rest)

/-- The blocks of an item make its list loose: there is an empty line between them, or there are two
paragraphs. -/
def isLoose (blocks : List Draft) : Bool :=
  blocks.any Block.isBlankLine || 2 ≤ (blocks.filter Block.isParagraph).length

structure Items where
  items : List (List Draft)
  tight : Bool
  rest : List Line
  definitions : Definitions

/-- Reads the items of a list, at most so many, from the marker of the first. -/
def readItems (inner : Inner) (nesting : Nesting) :
    Nat → Definitions → Marker → List Line → Items
  | 0, defs, _, rest => ⟨[], true, rest, defs⟩
  | n + 1, defs, m, rest =>
    let (lines, body) := item m rest
    let (blocks, defs) := inner nesting.inItem defs lines
    let tight := !isLoose blocks && !body.spaced
    match body.next with
    | none => ⟨[blocks], tight, body.rest, defs⟩
    | some next =>
      let more := readItems inner nesting n defs next body.rest
      { more with items := blocks :: more.items, tight := tight && more.tight }

/-- The list that begins with a marker, or the marker's line as text: an empty item does not end a
paragraph, nor does a number other than one. -/
def listAt (inner : Inner) (nesting : Nesting) (p : Progress) (line : Line) (m : Marker)
    (rest : List Line) : Progress × List Line :=
  let isFirst := m.number.all (· == 1)
  if p.isOpen && (!isFirst || m.text.all isBlank) then (p.addLine line, rest)
  else
    let read := readItems inner nesting (rest.length + 1) p.definitions m rest
    let start := if isFirst then none else m.number.map fun n => Count.number n
    ({ p with definitions := read.definitions }.add
      (.list m.number.isSome start read.tight read.items), read.rest)

/-- The raw HTML that begins with a line, or the line as text. -/
def htmlBlockAt (p : Progress) (line : Line) (start : HtmlStart) (rest : List Line) :
    Progress × List Line :=
  let block (extent : HtmlExtent) (first : Line) : Progress × List Line :=
    let (more, rest) := extent.take first rest
    (p.add (.html (String.ofList (joined (line :: more)))), rest)
  match start with
  | .block extent first => block extent first
  | .standalone (some extent) => if p.isOpen then (p.addLine line, rest) else block extent []
  | .standalone none => (p.addLine line, rest)

/-- The definition that begins with a line, or the line as text: definitions do not end a
paragraph. -/
def definitionAt (p : Progress) (line : Line) (label after : List Char) (rest : List Line) :
    Progress × List Line :=
  if p.isOpen then (p.addLine line, rest)
  else match definition? label after (line :: rest) with
    | some (key, target, rest) => ({ p with definitions := p.definitions.add key target }, rest)
    | none => (p.addLine line, rest)

/-- The table that begins with a line, or the line as text. -/
def tableAt (p : Progress) (line : Line) (rest : List Line) : Progress × List Line :=
  match grid? (line :: rest) with
  | some (some (g, rest)) => (p.add (.table (some g.header) g.rows g.align), rest)
  | _ => (p.addLine line, rest)

/-- Reads what a line begins that none of the common marks stands on. -/
def readOther (nesting : Nesting) (p : Progress) (line : Line) (rest : List Line) :
    Progress × List Line :=
  match definitionStart? line rest with
  | some (label, after) => definitionAt p line label after rest
  | none =>
    match htmlStart? line with
    | some start => htmlBlockAt p line start rest
    | none => if nesting.tables then tableAt p line rest else (p.addLine line, rest)

/-- Reads what a line begins, and gives the lines after it. -/
def readBlock (inner : Inner) (nesting : Nesting) (p : Progress) (line : Line)
    (rest : List Line) : Progress × List Line :=
  if isEmptyLine line then (p.add .blankLine, rest)
  else match fence? 3 line with
  | some f =>
    if f.isSound then
      let (block, rest) := fencedCode f rest
      (p.add block, rest)
    else (p.addLine line, rest)
  | none =>
  if isIndented line then
    if p.isOpen then (p.addLine line, rest)
    else
      let (block, rest) := indentedCode (line :: rest)
      (p.add block, rest)
  else match heading? line with
  | some (level, text) => (p.add (.heading (.number level) text), rest)
  | none =>
  match (underline? line).bind p.underlined with
  | some p => (p, rest)
  | none =>
  if isRule 3 line then (p.add .thematicBreak, rest)
  else if (underline? line).isSome then
    match listMarker? 3 line with
    | some m => listAt inner nesting p line m rest
    | none => (p.addLine line, rest)
  else match if nesting.quotes then quoted? 3 line else none with
  | some first =>
    let (said, rest) := quote first rest
    let (blocks, definitions) := inner nesting.inQuote p.definitions said
    ({ p with definitions }.add (.blockQuote blocks), rest)
  | none =>
  match if nesting.lists then listMarker? 3 line else none with
  | some m => listAt inner nesting p line m rest
  | none => readOther nesting p line rest

def readLines (inner : Inner) (nesting : Nesting) : Nat → Progress → List Line → Progress
  | 0, p, _ => p
  | _, p, [] => p
  | n + 1, p, line :: rest =>
    let (p, rest) := readBlock inner nesting p line rest
    readLines inner nesting n p rest

/-- The blocks of lines, inside one another at most so deep. Every step takes a line, so there are
no more steps than lines. -/
def blocksWithin : Nat → Inner
  | 0 => fun _ defs _ => ([], defs)
  | depth + 1 => fun nesting defs lines =>
    let p := readLines (blocksWithin depth) nesting lines.length { definitions := defs } lines
    (p.blocks.reverse, p.definitions)

end ChatMarkup.Markdown
