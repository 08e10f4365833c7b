import ChatMarkup.Tree.Basic

/-!
# Rendering in context

What a node looks like depends on where it stands: how deep in lists, in which list, and how
tables are to be shown.
-/
namespace ChatMarkup

/-- How tables are shown: as preformatted text, as a list with a line per row, or as a list with
a line per cell. -/
inductive TableMode where
  | codeBlock
  | compactList
  | detailedList
deriving DecidableEq, Repr

/-- A list, as it is seen from a node in it: the number of its first item, unless its items have
bullets, and what a search for the node among its children finds. -/
structure Numbering where
  ordered : Bool := false
  start : Option Count := none
  /-- The position of the node itself, counted from zero. A node that is equal to a child is not
  found, and neither is what stands below a child. -/
  place : Option Nat := none
deriving DecidableEq, Repr

/-- The number of the node. One that is not found counts as the first. -/
def Numbering.number (n : Numbering) : Int :=
  (n.start.map Count.toInt).getD 1 + n.place.getD 0

/-- The same list for a node that is not among its children. -/
def Numbering.unplaced (n : Numbering) : Numbering := { n with place := none }

structure RenderContext where
  /-- The number of lists around the node. -/
  listDepth : Int := 0
  /-- The innermost list around the node. -/
  numbering : Option Numbering := none
  tableMode : TableMode := .codeBlock
  includeTableHeaders : Bool := true
deriving DecidableEq, Repr

/-- The context of what stands in a list, at a depth, and is found in it at a place. -/
def RenderContext.inList (context : RenderContext) (depth : Int) (ordered : Bool)
    (start : Option Count) (place : Option Nat) : RenderContext :=
  { context with listDepth := depth, numbering := some { ordered, start, place } }

/-- The same context for a node that is not among the children of the list around it, as all that
stands in other nodes. -/
def RenderContext.unplaced (context : RenderContext) : RenderContext :=
  { context with numbering := context.numbering.map Numbering.unplaced }

namespace Render

def bullet : List Char := "• ".toList

/-- One level of indentation; plain spaces would not be kept. -/
def indentUnit : List Char := "&#160;&#160;&#160;&#160;".toList

def cellSeparator : List Char := " – ".toList

def marker (numbering : Option Numbering) : List Char :=
  match numbering with
  | none => bullet
  | some n =>
    if n.ordered then (toString n.number).toList ++ ". ".toList else bullet

/-- The depth of an item. An item outside of lists counts as one in a list. -/
def itemDepth (listDepth : Int) : Int := if listDepth == 0 then 1 else listDepth

def indentation (depth : Int) : List Char :=
  (List.replicate (depth - 1).toNat indentUnit).flatten

end Render

end ChatMarkup
