import ChatMarkup.Text.Blank
import ChatMarkup.Text.Search

/-!
# Table lines

In source text a table is a row of lines: a header, a separator with as many cells, and rows.
Cells stand between bars; a bar after a backslash belongs to its cell. Outer bars are optional.
-/
namespace ChatMarkup.SourceTable
open Text

/-- The pieces of a line between bars that no backslash stands before. The first argument tells
whether a backslash stands before the text. -/
def splitBars : Bool → List Char → List (List Char)
  | _, [] => [[]]
  | escaped, c :: rest =>
    if c == '|' && !escaped then [] :: splitBars false rest
    else match splitBars (c == '\\') rest with
      | [] => [[c]]
      | piece :: pieces => (c :: piece) :: pieces

def hasBar (s : List Char) : Bool := 1 < (splitBars false s).length

/-- Bars that a backslash stands before, without the backslash. -/
def unescapeBars : List Char → List Char
  | '\\' :: '|' :: rest => '|' :: unescapeBars rest
  | c :: rest => c :: unescapeBars rest
  | [] => []

/-- A trimmed line without its outer bars. -/
def withoutOuterBars (s : List Char) : List Char :=
  let s := match s with
    | '|' :: rest => rest
    | s => s
  if endsWith ['|'] s && !endsWith ['\\', '|'] s then s.dropLast else s

def cells (line : List Char) : List (List Char) :=
  (splitBars false (withoutOuterBars (trim line))).map fun c => unescapeBars (trim c)

/-- The line can be a row: something stands in it, and a bar. -/
def isRow (line : List Char) : Bool := !(trim line).isEmpty && hasBar line

/-- A cell of a separator: dashes, with a colon on either side or none. -/
def isSeparatorCell (s : List Char) : Bool :=
  let s := match trim s with
    | ':' :: rest => rest
    | s => s
  let dashes := s.takeWhile (· == '-')
  !dashes.isEmpty && (s.drop dashes.length == [] || s.drop dashes.length == [':'])

/-- The line separates a header from rows. -/
def isSeparator (line : List Char) : Bool :=
  let s := match trim line with
    | '|' :: rest => rest
    | s => s
  let pieces := splitAt '|' s
  let pieces := if (trim (pieces.getLast?.getD [])).isEmpty then pieces.dropLast else pieces
  line.contains '|' && !pieces.isEmpty && pieces.all isSeparatorCell

/-- A table begins with this line and the next one. -/
def startsTable (header separator : List Char) : Bool :=
  isRow header && isSeparator separator && (cells header).length == (cells separator).length

end ChatMarkup.SourceTable
