import ChatMarkup.Render.Context
import ChatMarkup.SourceTable.Row

/-!
# Tables as lists

Source text with its tables written as nested bullet lists, for messages that show tables so. A
line of a table becomes an item with its first cell in bold; in the compact form the other cells
follow on the line, in the detailed form each is an item below it, named by the header. Rows
without text are left out, and a table that has only a header lists it as data. Lines of fenced
code are not touched; a list is set apart from text around it by empty lines.
-/
namespace ChatMarkup.SourceTable
open Text

def boldSource (label : List Char) : List (List Char) :=
  if label.isEmpty then [] else ["**".toList ++ label ++ "**".toList]

def nestedItem (name value : List Char) : List Char :=
  if name.isEmpty then "    - ".toList ++ value
  else "    - ".toList ++ name ++ ": ".toList ++ value

/-- The items of the cells from a column on. -/
def nestedItems (header : List (List Char)) (includeHeaders : Bool) :
    Nat → List (List Char) → List (List Char)
  | _, [] => []
  | column, value :: rest =>
    let below := nestedItems header includeHeaders (column + 1) rest
    if value.isEmpty then below
    else
      let name := if includeHeaders then header[column]?.getD [] else []
      nestedItem name value :: below

def rowItems (mode : TableMode) (header : List (List Char)) (includeHeaders : Bool) :
    List (List Char) → List (List Char)
  | [] => []
  | label :: rest =>
    if (label :: rest).all List.isEmpty then []
    else match mode with
      | .compactList =>
        ["- ".toList ++ " – ".toList.intercalate
          (boldSource label ++ rest.filter fun v => !v.isEmpty)]
      | _ =>
        ("- ".toList ++ (boldSource label).flatten) ::
          nestedItems header includeHeaders 1 rest

def tableItems (mode : TableMode) (includeHeaders : Bool) (header : List (List Char))
    (rows : List (List (List Char))) : List (List Char) :=
  match rows with
  | [] => rowItems mode [] includeHeaders header
  | rows => rows.flatMap (rowItems mode header includeHeaders)

structure Fence where
  mark : Char
  length : Nat
deriving DecidableEq, Repr

/-- The fence at the start of a line, after at most three spaces. -/
def fenceAt? (line : List Char) : Option Fence :=
  match dropUpTo 3 (· == ' ') line with
  | c :: rest =>
    let length := 1 + (rest.takeWhile (· == c)).length
    if (c == '\x60' || c == '~') && 3 ≤ length then some ⟨c, length⟩ else none
  | [] => none

def Fence.ends (closer opener : Fence) : Bool :=
  closer.mark == opener.mark && opener.length ≤ closer.length

def isFilled (line : List Char) : Bool := !(trim line).isEmpty

/-- An empty line, unless the last line so far is blank or there is none. -/
def gapAfter (last? : Option (List Char)) : List (List Char) :=
  match last? with
  | some last => if isFilled last then [[]] else []
  | none => []

/-- Writes the tables among the lines as lists. `fence?` is the fence of code around the lines
and `last?` the last line before them. -/
def listTables (mode : TableMode) (includeHeaders : Bool) (fence? : Option Fence)
    (last? : Option (List Char)) : List (List Char) → List (List Char)
  | [] => []
  | line :: rest =>
    match fence?, fenceAt? line with
    | some opener, some closer =>
      line :: listTables mode includeHeaders
        (if closer.ends opener then none else some opener) (some line) rest
    | some opener, none => line :: listTables mode includeHeaders (some opener) (some line) rest
    | none, some fence => line :: listTables mode includeHeaders (some fence) (some line) rest
    | none, none =>
      match rest with
      | [] => [line]
      | separator :: more =>
        if startsTable line separator then
          let items := tableItems mode includeHeaders (cells line)
            ((more.takeWhile isRow).map cells)
          let after := more.dropWhile isRow
          let written := gapAfter last? ++ items ++ gapAfter after.head?
          written ++ listTables mode includeHeaders none (written.getLast?.or last?) after
        else line :: listTables mode includeHeaders none (some line) (separator :: more)
termination_by lines => lines.length
decreasing_by
  all_goals simp only [List.length_cons]
  all_goals try omega
  have := (List.dropWhile_suffix isRow (l := more)).length_le
  omega

/-- Text with its tables written as lists, unless tables are to be shown as code. -/
def toLists (mode : TableMode) (includeHeaders : Bool) (s : List Char) : List Char :=
  match mode with
  | .codeBlock => s
  | mode => ['\n'].intercalate (listTables mode includeHeaders none none (splitAt '\n' s))

end ChatMarkup.SourceTable
