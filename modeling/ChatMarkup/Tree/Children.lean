import ChatMarkup.Tree.Basic

/-!
# Children

The children of a node are what readers see below it. A table with a header or rows shows these
as its children, header first; its row of children counts only where it has neither. Replacing
the children of a node keeps everything else.

The size of a node counts all nodes in it, seen or not. A child is smaller than its parent, which
is what recursion over trees rests on.
-/
namespace ChatMarkup.Node

/-- The rows of a table in order: header and rows where it has any of these, its body otherwise. -/
def tableRows (body : List Node) (header : Option Node) (rows : List Node) : List Node :=
  match header, rows with
  | some h, rows => h :: rows
  | none, [] => body
  | none, rows => rows

/-- The children of a node as readers see them. -/
def children : Node → List Node
  | .leaf .. => []
  | .container _ cs _ => cs
  | .table body header rows _ _ => tableRows body header rows
  | .unknown _ _ cs _ => cs

/-- The node with other children. In a table with a header the first of them becomes the header;
without any, the header stays. -/
def withChildren : Node → List Node → Node
  | .leaf kind m, _ => .leaf kind m
  | .container kind _ m, cs => .container kind cs m
  | .table body header rows align m, cs =>
    match header, rows, cs with
    | some _, _, c :: cs => .table body (some c) cs align m
    | some h, _, [] => .table body (some h) [] align m
    | none, _ :: _, cs => .table body none cs align m
    | none, [], cs => .table cs none [] align m
  | .unknown name value _ m, cs => .unknown name value cs m

/-- A node with its own children put in again is the same node. -/
theorem withChildren_children (n : Node) : n.withChildren n.children = n := by
  cases n with
  | leaf => rfl
  | container => rfl
  | table body header rows align m =>
    cases header with
    | some h => rfl
    | none => cases rows <;> rfl
  | unknown => rfl

mutual

def size : Node → Nat
  | .leaf .. => 1
  | .container _ cs _ => 1 + sizeList cs
  | .table body header rows _ _ => 1 + sizeList body + sizeOption header + sizeList rows
  | .unknown _ _ cs _ => 1 + sizeList cs

def sizeList : List Node → Nat
  | [] => 0
  | n :: ns => size n + sizeList ns

def sizeOption : Option Node → Nat
  | none => 0
  | some n => size n

end

theorem size_le_sizeList {n : Node} {ns : List Node} (h : n ∈ ns) : n.size ≤ sizeList ns := by
  induction ns with
  | nil => cases h
  | cons m ms ih =>
    cases h with
    | head => simp [sizeList]
    | tail _ h => have := ih h; simp [sizeList]; omega

/-- A child is smaller than its parent. -/
theorem size_lt_of_mem_children {n c : Node} (h : c ∈ n.children) : c.size < n.size := by
  cases n with
  | leaf => simp [children] at h
  | container kind cs m =>
    have : c.size ≤ sizeList cs := size_le_sizeList h
    simp [size]; omega
  | table body header rows align m =>
    simp only [children] at h
    cases header with
    | some g =>
      simp only [tableRows, List.mem_cons] at h
      rcases h with rfl | h
      · simp [size, sizeOption]; omega
      · have := size_le_sizeList h
        simp [size, sizeOption]; omega
    | none =>
      cases rows with
      | nil =>
        have : c.size ≤ sizeList body := size_le_sizeList h
        simp [size, sizeOption, sizeList]; omega
      | cons r rs =>
        have : c.size ≤ sizeList (r :: rs) := size_le_sizeList h
        simp [size, sizeOption]; omega
  | unknown name value cs m =>
    have : c.size ≤ sizeList cs := size_le_sizeList h
    simp [size]; omega

end ChatMarkup.Node
