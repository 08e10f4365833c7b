import ChatMarkup.Data.Value
import ChatMarkup.Markdown.Line

/-!
# Tables in Markdown

A table is a header line, a line of hyphens that gives the alignments, and the lines of its rows.
Either all lines begin and end with a bar, or none needs to. Header, alignments and every row must
have the same number of cells; otherwise the lines are no table.
-/
namespace ChatMarkup.Markdown
open Text

/-- The cells of a line, cut at the bars that no backslash precedes. The first two arguments are
the character before, and the cell that is being read, last character first. -/
def cellsFrom : Option Char → List Char → List Char → List Line
  | _, cell, [] => [trim cell.reverse]
  | before, cell, c :: rest =>
    if c == '|' && before != some '\\' then trim cell.reverse :: cellsFrom (some c) [] rest
    else cellsFrom (some c) (c :: cell) rest

def cellsOfLine (l : Line) : List Line := cellsFrom none [] (trim l)

def alignment (cell : Line) : Value :=
  let body := (dropEnd (· == ' ') cell).dropWhile (· == ' ')
  let left := body.head? == some ':'
  let right := 2 ≤ body.length && body.getLast? == some ':'
  let hyphens := (if right then body.dropLast else body).drop (if left then 1 else 0)
  if hyphens.isEmpty || !hyphens.all (· == '-') then .null
  else if left && right then .text "center"
  else if left then .text "left"
  else if right then .text "right"
  else .null

/-- What stands between the outer bars of a line. -/
def barred? (l : Line) : Option Line :=
  match dedented? 3 l with
  | some ('|' :: rest) =>
    match dropEnd isGap rest with
    | [] => none
    | inner => if inner.getLast? == some '|' then some inner.dropLast else none
  | _ => none

def isAlignmentChar (c : Char) : Bool := c == '-' || c == ':' || c == '|' || c == ' '

def isBarredAlignment (l : Line) : Bool :=
  l.all isAlignmentChar && (l.dropWhile (· == ' ')).head?.any fun c => c == '-' || c == ':'

/-- What stands on the line of a header without outer bars. -/
def openHeader? (l : Line) : Option Line :=
  (dedented? 3 l).filter fun l => !l.head?.any isBlank && (l.drop 1).contains '|'

/-- What stands on a line of hyphens without outer bars: the first cell is made of hyphens. -/
def openAlignment? (l : Line) : Option Line :=
  (dedented? 3 l).filter fun l =>
    let first := l.takeWhile fun c => c == '-' || c == ':'
    !first.isEmpty && l.all isAlignmentChar &&
      ((l.drop first.length).dropWhile (· == ' ')).head? == some '|'

structure Grid where
  header : List Line
  rows : List (List Line)
  align : List Value

/-- The table of a header, a line of hyphens and rows, if all have as many cells. -/
def Grid.of? (header hyphens : Line) (rows : List Line) : Option Grid :=
  let titles := cellsOfLine header
  let columns := cellsOfLine hyphens
  let body := rows.map cellsOfLine
  if titles.length == columns.length && body.all (fun r => r.length == titles.length) then
    some ⟨titles, body, columns.map alignment⟩
  else none

/-- The table that begins with these lines, and the lines after it. The outer result is `none` where
the lines do not look like a table, the inner one where the cells do not match. -/
def grid? (lines : List Line) : Option (Option (Grid × List Line)) :=
  match lines with
  | header :: hyphens :: rest =>
    match barred? header, (barred? hyphens).filter isBarredAlignment with
    | some (c :: cs), some columns =>
      let rows := rest.takeWhile fun l => (barred? l).isSome
      let inner := rows.filterMap barred?
      if inner.any (·.isEmpty) then some none
      else some ((Grid.of? (c :: cs) columns inner).map fun g => (g, rest.drop rows.length))
    | _, _ =>
      match openHeader? header, openAlignment? hyphens with
      | some titles, some columns =>
        let rows := rest.takeWhile (·.contains '|')
        some ((Grid.of? titles columns rows).map fun g => (g, rest.drop rows.length))
      | _, _ => none
  | _ => none

end ChatMarkup.Markdown
