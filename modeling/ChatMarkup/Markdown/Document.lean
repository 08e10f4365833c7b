import ChatMarkup.Failure
import ChatMarkup.Markdown.Conversion
import ChatMarkup.Markdown.Outline
import ChatMarkup.Markdown.Running

/-!
# Reading Markdown

A Markdown text becomes a document in three steps: the outline of its blocks, the spans of their
texts, and the nodes for both. The spans come second because a link may be defined anywhere in the
text. The first two steps are the work of a reader. It may be any other than the one here, and it
may fail, or lack the packages that it needs; the third step is the same for all of them.
-/
namespace ChatMarkup.Markdown
open Text

structure Options where
  parseTables : Bool := true
  parseStrikethrough : Bool := true
  mergeText : Bool := true
deriving DecidableEq, Repr

def normalLineEnds : List Char → List Char
  | '\r' :: '\n' :: rest => '\n' :: normalLineEnds rest
  | '\r' :: rest => '\n' :: normalLineEnds rest
  | c :: rest => c :: normalLineEnds rest
  | [] => []

/-- The lines of a text; a line break at its end begins no further line. -/
def linesOf (s : List Char) : List Line :=
  let lines := splitAt '\n' (normalLineEnds s)
  if lines.getLast? == some [] then lines.dropLast else lines

/-- The outline of a text and its definitions. A quote or an item takes a character at least, so the
length of the text bounds the depth. -/
def outline (options : Options) (s : List Char) : List Draft × Definitions :=
  blocksWithin (s.length + 1) { tables := options.parseTables } [] (linesOf s)

def blocks (options : Options) (s : List Char) : List (Block (List Span)) :=
  let (drafts, definitions) := outline options s
  drafts.map (Block.map (spansOfText definitions options.parseStrikethrough))

/-- What reads Markdown: the packages that it lacks, and the blocks that it finds in a text, or the
problem that it runs into. -/
structure Reader where
  missing : List Requirement := []
  mismatches : List Mismatch := []
  blocks : Options → List Char → Except String (List (Block (List Span)))

/-- The reader that is at hand. It lacks nothing and runs into no problem. -/
def reader : Reader := { blocks := fun options s => .ok (blocks options s) }

/-- The document that a reader makes of a text. An empty text is not read at all. -/
def Reader.document (r : Reader) (options : Options) (s : List Char) : Except Failure Node :=
  if !(r.missing.isEmpty && r.mismatches.isEmpty) then
    .error (.plain .dependency (dependencyMessage "markdown" r.missing r.mismatches ""))
  else if s.isEmpty then .ok (Node.document [])
  else match r.blocks options s with
    | .ok blocks => .ok (Node.document (Block.allToNodes options.mergeText blocks))
    | .error problem =>
      .error (.plain (.parsing (some "markdown_parsing")) s!"Failed to parse Markdown: {problem}")

theorem document_reader (options : Options) (s : List Char) :
    reader.document options s =
      .ok (Node.document (Block.allToNodes options.mergeText (blocks options s))) := by
  cases s <;> rfl

end ChatMarkup.Markdown
