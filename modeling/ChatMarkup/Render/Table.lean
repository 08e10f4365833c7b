import ChatMarkup.Escape
import ChatMarkup.Render.Context
import ChatMarkup.Text.Blank
import ChatMarkup.Tree.Text

/-!
# Tables in messages

Messages have no tables. One way to show a table is preformatted text in the notation of its
source; it takes the raw text of the cells. The other is a list with an item for each row, where
the first cell is the label. In the compact form the other cells follow on the same line; in the
detailed form each has a line of its own, named by the header. Rows without any text are left out
of lists, and a table that has only a header lists it as data.
-/
namespace ChatMarkup.Render
open Text

def filledRows (rows : List Node) : List (List Node) :=
  (rows.map Node.children).filter fun cells => !cells.isEmpty

/-- The raw text of a cell on one line, with the bars in it escaped. -/
def plainCell (cell : Node) : List Char :=
  (collapse cell.rawText).flatMap fun c => if c == '|' then ['\\', '|'] else [c]

def sourceLine (cells : List (List Char)) : List Char :=
  "| ".toList ++ " | ".toList.intercalate cells ++ " |".toList

/-- The lines of a table in the notation of its source. The line below the first row has as many
cells as that row; a single row stands alone. -/
def sourceLines (rows : List (List (List Char))) : List (List Char) :=
  match rows with
  | [] => []
  | [row] => [sourceLine row]
  | row :: rest =>
    sourceLine row :: sourceLine (List.replicate row.length "---".toList) :: rest.map sourceLine

/-- Lines as preformatted text; nothing if there are none. -/
def preformatted : List (List Char) → List Char
  | [] => []
  | lines =>
    "<pre><code>".toList ++ escape (['\n'].intercalate lines) ++ "</code></pre>\n".toList

/-- A table as preformatted text; nothing if no row has cells. -/
def codeBlockTable (rows : List Node) : List Char :=
  preformatted (sourceLines ((filledRows rows).map fun cells => cells.map plainCell))

def boldLabel (label : List Char) : List (List Char) :=
  if label.isEmpty then [] else ["<b>".toList ++ label ++ "</b>".toList]

def rowLines (mode : TableMode) (names : List (List Char)) :
    List (List Char) → List (List Char)
  | [] => []
  | label :: rest =>
    if label.isEmpty && rest.all List.isEmpty then []
    else match mode with
      | .compactList =>
        [bullet ++ cellSeparator.intercalate
          (boldLabel label ++ rest.filter fun v => !v.isEmpty)]
      | _ =>
        (bullet ++ (boldLabel label).flatten) ::
          (rest.zipIdx 1).filterMap fun (value, column) =>
            if value.isEmpty then none
            else
              let name := names[column]?.getD []
              let entry := if name.isEmpty then value else name ++ ": ".toList ++ value
              some (indentUnit ++ bullet ++ entry)

/-- The header and the data rows of a table: a table with one row has that as data. -/
def splitHeader {α : Type} : List (List α) → List α × List (List α)
  | [] => ([], [])
  | [row] => ([], [row])
  | header :: rows => (header, rows)

/-- Lines as a list; nothing if there are none. -/
def listed : List (List Char) → List Char
  | [] => []
  | lines => trimEnd (['\n'].intercalate lines) ++ "\n\n".toList

/-- A table of rendered cells as a list; nothing if no row has text. -/
def listTable (mode : TableMode) (includeHeaders : Bool) (rows : List (List (List Char))) :
    List Char :=
  let (header, rows) := splitHeader (rows.map fun row => row.map trim)
  let names := if includeHeaders then header else []
  listed (rows.flatMap (rowLines mode names))

end ChatMarkup.Render
