import ChatMarkup.Tree.Validate

/-!
# Checking trees

A checker goes through a tree in reading order, and through further trees after it. It complains
about headings whose rank is out of range and about children in the wrong place, below which it
does not look. Whatever it has complained about it keeps. A strict checker stops at the first
complaint.
-/
namespace ChatMarkup.Node

inductive Complaint where
  /-- A heading has a rank out of range. -/
  | rank (depth : Depth)
  /-- A child is in the wrong place. -/
  | place (problem : Misplacement)
deriving DecidableEq, Repr

def Complaint.message : Complaint → String
  | .rank depth => s!"Heading depth must be 1-6, got {depth.toValue.plain}"
  | .place problem => problem.message

structure Checker where
  strict : Bool
  complaints : List Complaint := []
deriving DecidableEq, Repr

/-- What a checker does. A complaint may put an end to it, but is kept all the same. -/
abbrev Checking := EStateM Complaint Checker

def complain (c : Complaint) : Checking Unit := do
  modify fun k => { k with complaints := k.complaints ++ [c] }
  if (← get).strict then throw c

/-- What there is to complain about the node itself. -/
def rankComplaint? : Node → Option Complaint
  | .container (.heading depth) _ _ => if depth.inRange then none else some (.rank depth)
  | _ => none

/-- Checks a tree: the node at its top, then each child in its place and all that is below. -/
def visit (n : Node) : Checking Unit := do
  if let some c := n.rankComplaint? then complain c
  n.children.attach.zipIdx.forM fun (⟨c, hc⟩, i) =>
    match misplacement? n i c with
    | some problem => complain (.place problem)
    | none =>
      have := size_lt_of_mem_children hc
      visit c
termination_by n.size

end ChatMarkup.Node
