import ChatMarkup.Number.Integer
import ChatMarkup.Render.Node

/-!
# Writing trees

The form of a node is written step by step, and not every step goes through whatever it is given: a
path may lead to no text, a table may have no row with cells, a row no first cell, the host of an
address may be malformed, and a number may be too long. A step that fails ends the writing, except
for addresses: one that is malformed is not taken for a custom emoji.
-/
namespace ChatMarkup.Render
open Text

inductive WriteError where
  /-- The text that is to be cut is not where its path leads. -/
  | place (e : Node.PathError)
  /-- No row of a table has cells. -/
  | noFilledRow
  /-- A row has no cell for its label. -/
  | noLabel
  /-- The host of an address is malformed. -/
  | address
  /-- A number has more digits than are written. -/
  | longNumber
deriving DecidableEq, Repr

def WriteError.message : WriteError → String
  | .place e => e.message
  | .noFilledRow => ""
  | .noLabel => "list index out of range"
  | .address => "Invalid URL"
  | .longNumber => Number.longMessage

def writeNumber (n : Int) : Except WriteError (List Char) :=
  if Number.isLong n then .error .longNumber else .ok (toString n).toList

def writeMarker (numbering : Option Numbering) : Except WriteError (List Char) :=
  match numbering with
  | none => .ok bullet
  | some n => if n.ordered then (writeNumber n.number).map (· ++ ". ".toList) else .ok bullet

def queryOf (address : List Char) : Except WriteError (List Char) :=
  match Url.query? address with
  | some query => .ok query
  | none => .error .address

/-- The number of a custom emoji, if the address is one; a malformed address is none. -/
def findEmojiId (address : List Char) : Except WriteError (Option (List Char)) :=
  if emojiAddress.isPrefixOf address then
    tryCatch ((queryOf address).map (Url.valueIn? "id".toList)) fun
      | .address => .ok none
      | e => .error e
  else .ok none

/-- An image: a custom emoji, or a link in bold. -/
def writeImage (address : List Char) (alt : Option String) : Except WriteError (List Char) := do
  match ← findEmojiId address with
  | some id => .ok (emojiMarkup id alt)
  | none => .ok (imageLink address alt)

def writeLeaf : Leaf → Except WriteError (List Char)
  | .image url alt _ => writeImage url.toList alt
  | kind => .ok (leafMarkup kind)

def firstFilledRow (rows : List Node) : Except WriteError (List Node) :=
  match rows.find? fun row => !row.children.isEmpty with
  | some row => .ok row.children
  | none => .error .noFilledRow

/-- A table as preformatted text. From two lines on, a line with as many cells as the first one
stands below it. -/
def writeCodeBlockTable (rows : List Node) : Except WriteError (List Char) :=
  let lines := (filledRows rows).map fun cells => sourceLine (cells.map plainCell)
  if lines.length < 2 then .ok (preformatted lines)
  else do
    let first ← firstFilledRow rows
    let separator := sourceLine (List.replicate first.length "---".toList)
    .ok (preformatted (lines.insertIdx 1 separator))

/-- The lines of a row that is shown as an item; a row without any text has none. -/
def writeRowLines (mode : TableMode) (names values : List (List Char)) :
    Except WriteError (List (List Char)) :=
  if values.all List.isEmpty then .ok []
  else match values with
    | [] => .error .noLabel
    | label :: rest => .ok (rowLines mode names (label :: rest))

/-- A table of rendered cells as a list. -/
def writeListTable (mode : TableMode) (includeHeaders : Bool) (rows : List (List (List Char))) :
    Except WriteError (List Char) :=
  let (header, rows) := splitHeader (rows.map fun row => row.map trim)
  let names := if includeHeaders then header else []
  (rows.mapM (writeRowLines mode names)).map fun lines => listed lines.flatten

/-- A quote without the marker at its end, in the last text node that has it there. -/
def cutMarker (quote : Node) : Except WriteError Node :=
  if endsInMarker quote.rawText then
    match quote.lastTextPath? Spoiler.marker with
    | none => .ok quote
    | some path =>
      (quote.cutTextAt (path.map Int.ofNat) Spoiler.marker.length).mapError .place
  else .ok quote

/-- Cutting the marker keeps the number of nodes. -/
theorem size_cutMarker {quote cut : Node} (h : cutMarker quote = .ok cut) :
    cut.size = quote.size := by
  unfold cutMarker at h
  split at h
  · split at h
    · cases h; rfl
    · next path _ =>
      cases hc : quote.cutTextAt (path.map Int.ofNat) Spoiler.marker.length with
      | error e =>
        rw [hc] at h
        cases h
      | ok m =>
        rw [hc] at h
        cases h
        exact Node.size_cutTextAt hc
  · cases h; rfl

/-- What a step makes of each child of a node, given its position. -/
def onChildren {α : Type} (n : Node)
    (step : (c : Node) → c ∈ n.children → Nat → Except WriteError α) :
    Except WriteError (List α) :=
  n.children.attach.zipIdx.mapM fun (⟨c, hc⟩, i) => step c hc i

def writeChildren (n : Node)
    (write : (c : Node) → c ∈ n.children → Nat → Except WriteError (List Char)) :
    Except WriteError (List Char) :=
  (onChildren n write).map List.flatten

/-- A node of a kind that has the same around its content wherever it stands. -/
def enclose : Container → List Char → List Char
  | .document => trim
  | .heading _ => wrap "<b>" "</b>\n\n"
  | .paragraph => wrap "" "\n\n"
  | .emphasis => wrap "<i>" "</i>"
  | .strong => wrap "<b>" "</b>"
  | .strikethrough => wrap "<s>" "</s>"
  | .link url _ => fun content =>
    "<a href=\"".toList ++ escape url.toList ++ "\">".toList ++ content ++ "</a>".toList
  | _ => id

def encloseQuote (text content : List Char) : List Char :=
  wrap (if isExpandable text then "<blockquote expandable>" else "<blockquote>")
    "</blockquote>\n" (trim content)

inductive Part where
  /-- A paragraph gives its content alone. -/
  | content
  /-- A list begins on a line of its own. -/
  | nested (ordered : Bool) (start : Option Count)
  | whole
deriving DecidableEq, Repr

/-- How an item shows this child. -/
def partOf : Node → Part
  | .container .paragraph _ _ => .content
  | .container (.list ordered start _) _ _ => .nested ordered start
  | _ => .whole

def writeNode (context : RenderContext) (node : Node) : Except WriteError (List Char) :=
  match _hn : node with
  | .leaf kind _ => writeLeaf kind
  | .unknown .. => writeChildren node fun c hc _ =>
    have := Node.size_lt_of_mem_children hc
    writeNode context.unplaced c
  | .table .. =>
    match context.tableMode with
    | .codeBlock => writeCodeBlockTable node.children
    | mode => do
      let rows ← onChildren node fun row hr _ => onChildren row fun cell hc _ =>
        writeChildren cell fun c h _ =>
          have := Node.size_lt_of_mem_children hr
          have := Node.size_lt_of_mem_children hc
          have := Node.size_lt_of_mem_children h
          writeNode context.unplaced c
      writeListTable mode context.includeTableHeaders (rows.filter fun row => !row.isEmpty)
  | .container kind _ _ =>
    match kind with
    | .blockQuote =>
      match h : cutMarker node with
      | .error e => .error e
      | .ok quote =>
        (writeChildren quote fun c hc _ =>
          have := size_cutMarker h ▸ Node.size_lt_of_mem_children hc
          writeNode context.unplaced c).map (encloseQuote node.rawText)
    | .list ordered start _ =>
      (writeChildren node fun c hc i =>
        have := Node.size_lt_of_mem_children hc
        writeNode (context.inList (context.listDepth + 1) ordered start (some i)) c).map
          fun items => if context.listDepth == 0 then trimEnd items ++ "\n\n".toList else items
    | .listItem _ => do
      let depth := itemDepth context.listDepth
      let marker ← writeMarker context.numbering
      let parts ← writeChildren node fun c hc _ =>
        have := Node.size_lt_of_mem_children hc
        match partOf c with
        | .content =>
          writeChildren c fun d hd _ =>
            have := Node.size_lt_of_mem_children hd
            writeNode context.unplaced d
        | .nested ordered start =>
          (writeNode (context.inList depth ordered start none) c).map fun nested =>
            '\n' :: trimEnd nested
        | .whole => writeNode context.unplaced c
      .ok (indentation depth ++ marker ++ parts ++ ['\n'])
    | kind => (writeChildren node fun c hc _ =>
      have := Node.size_lt_of_mem_children hc
      writeNode context.unplaced c).map (enclose kind)
termination_by node.size

end ChatMarkup.Render
