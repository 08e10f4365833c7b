import ChatMarkup.Tree.Children

/-!
# Well-placed nodes

Some nodes have a place of their own: items stand in lists, rows in tables, cells in rows, and
tables and rows hold nothing else. Whatever stands elsewhere is reported once, and what lies below
it is not looked at. A node of an unknown kind may hold rows and cells.
-/
namespace ChatMarkup.Node

inductive Misplacement where
  /-- A table or row has a child of the wrong kind. -/
  | wrongChild (parent : String) (index : Nat) (expected found : String)
  /-- An item does not stand in a list. -/
  | strayItem (parent : String)
  /-- A row or cell does not stand in a table. -/
  | strayCell (kind parent : String)
deriving DecidableEq, Repr

def Misplacement.message : Misplacement → String
  | .wrongChild parent i expected found =>
    s!"{parent} child {i} must be {expected}, got {found}"
  | .strayItem parent => s!"ListItem found outside of a List (inside {parent})"
  | .strayCell kind parent => s!"{kind} found outside of a Table (inside {parent})"

def isListItem : Node → Bool
  | .container (.listItem _) _ _ => true
  | _ => false

def isList : Node → Bool
  | .container (.list ..) _ _ => true
  | _ => false

def isTableRow : Node → Bool
  | .container .tableRow _ _ => true
  | _ => false

def isTableCell : Node → Bool
  | .container .tableCell _ _ => true
  | _ => false

def isTable : Node → Bool
  | .table .. => true
  | _ => false

/-- Rows and cells may stand in the node. -/
def holdsCells (n : Node) : Bool :=
  n.isTable || n.isTableRow || match n with
    | .unknown .. => true
    | _ => false

def parentName : Node → String
  | .unknown name .. => s!"UnknownNode({name})"
  | n => n.kindName

/-- What is wrong with the place of a child, if anything. -/
def misplacement? (parent : Node) (i : Nat) (child : Node) : Option Misplacement :=
  if parent.isTable && !child.isTableRow then
    some (.wrongChild parent.parentName i "TableRow" child.kindName)
  else if parent.isTableRow && !child.isTableCell then
    some (.wrongChild parent.parentName i "TableCell" child.kindName)
  else if child.isListItem && !parent.isList then some (.strayItem parent.parentName)
  else if (child.isTableRow || child.isTableCell) && !parent.holdsCells then
    some (.strayCell child.kindName parent.parentName)
  else none

mutual

def misplacements : Node → List Misplacement
  | .leaf .. => []
  | .container kind cs m => misplacementsFrom (.container kind cs m) 0 cs
  | .table body header rows align m =>
    let parent := Node.table body header rows align m
    match header, rows with
    | none, [] => misplacementsFrom parent 0 body
    | none, rows => misplacementsFrom parent 0 rows
    | some h, rows =>
      (match misplacement? parent 0 h with
        | some problem => [problem]
        | none => misplacements h) ++ misplacementsFrom parent 1 rows
  | .unknown name value cs m => misplacementsFrom (.unknown name value cs m) 0 cs

/-- The misplacements among children of a node, counted from `i`, and below them. -/
def misplacementsFrom (parent : Node) (i : Nat) : List Node → List Misplacement
  | [] => []
  | child :: rest =>
    (match misplacement? parent i child with
      | some problem => [problem]
      | none => misplacements child) ++ misplacementsFrom parent (i + 1) rest

end

/-- What a check of a tree reports: everything, or in strict mode only what comes first. -/
def reported (strict : Bool) (n : Node) : List Misplacement :=
  if strict then n.misplacements.take 1 else n.misplacements

end ChatMarkup.Node
