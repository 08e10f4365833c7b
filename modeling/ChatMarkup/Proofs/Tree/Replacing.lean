import ChatMarkup.Tree.Children

/-!
# Replacing children

A node is made up of its children and of all the rest, its label. Other children can be put in under
the same label, and reading them back gives what was put in. Only tables that are to be left without
any children are an exception, as which of their nodes are children depends on which of them there
are. A table with a header keeps it as its only child, and one of rows without a header shows its
body again once the rows are gone.
-/
namespace ChatMarkup.Node

/-! ## Labels -/

inductive Layout where
  | body
  /-- A header, if there is one, and further rows stand in front of a body that does not show. -/
  | apart (headed : Bool) (hidden : List Node)

/-- What a node holds apart from its children. -/
inductive Label where
  | leaf (kind : Leaf) (metadata : Members)
  | container (kind : Container) (metadata : Members)
  | table (layout : Layout) (align : List Value) (metadata : Members)
  | unknown (name : String) (value : Option String) (metadata : Members)

def layout (body : List Node) : Option Node → List Node → Layout
  | none, [] => .body
  | header, _ => .apart header.isSome body

def label : Node → Label
  | .leaf kind m => .leaf kind m
  | .container kind _ m => .container kind m
  | .table body header rows align m => .table (layout body header rows) align m
  | .unknown name value _ m => .unknown name value m

theorem eq_of_layout_eq {body body' rows rows' : List Node} {header header' : Option Node}
    (hl : layout body header rows = layout body' header' rows')
    (hr : tableRows body header rows = tableRows body' header' rows') :
    body = body' ∧ header = header' ∧ rows = rows' := by
  rcases header with _ | h <;> rcases rows with _ | ⟨r,rs⟩ <;> rcases header' with _ | h' <;>
    rcases rows' with _ | ⟨r',rs'⟩ <;> simp_all [layout,tableRows]

/-- The label and the children are all there is to a node. -/
theorem eq_of_label_eq {n m : Node} (hl : n.label = m.label) (hc : n.children = m.children) :
    n = m := by
  cases n with
  | leaf => cases m <;> simp_all [label]
  | container => cases m <;> simp_all [label,children]
  | unknown => cases m <;> simp_all [label,children]
  | table body header rows align md =>
    cases m with
    | table body' header' rows' align' md' =>
      simp only [label,Label.table.injEq] at hl
      obtain ⟨rfl,rfl,rfl⟩ := eq_of_layout_eq hl.1 hc
      rw [hl.2.1,hl.2.2]
    | _ => cases hl

/-! ## What is put in and read back -/

def isLeaf : Node → Bool
  | .leaf .. => true
  | _ => false

def isHeadless : Node → Bool
  | .table _ none (_ :: _) _ _ => true
  | _ => false

/-- The children of a node that was to be left without any. -/
def remnant : Node → List Node
  | .table _ (some h) _ _ _ => [h]
  | .table body none (_ :: _) _ _ => body
  | _ => []

theorem withChildren_of_isLeaf {n : Node} (h : n.isLeaf = true) (cs : List Node) :
    n.withChildren cs = n := by
  cases n with
  | leaf => rfl
  | _ => cases h

theorem children_withChildren {n : Node} (h : n.isLeaf = false) (cs : List Node) :
    (n.withChildren cs).children = if cs.isEmpty then n.remnant else cs := by
  cases n with
  | leaf => cases h
  | container => cases cs <;> rfl
  | unknown => cases cs <;> rfl
  | table body header rows align m =>
    cases header with
    | some g => cases cs <;> rfl
    | none => cases rows <;> cases cs <;> rfl

/-- Children are read back as they were put in, unless there are none and something still shows. -/
theorem children_withChildren_eq_iff {n : Node} (h : n.isLeaf = false) (cs : List Node) :
    (n.withChildren cs).children = cs ↔ cs ≠ [] ∨ n.remnant = [] := by
  rw [children_withChildren h]
  cases cs <;> simp

theorem label_withChildren_eq_iff (n : Node) (cs : List Node) :
    (n.withChildren cs).label = n.label ↔ cs ≠ [] ∨ n.isHeadless = false := by
  cases n with
  | table body header rows align m =>
    cases header with
    | some g => cases cs <;> simp [withChildren,label,layout,isHeadless]
    | none => cases rows <;> cases cs <;> simp [withChildren,label,layout,isHeadless]
  | _ => simp [withChildren,label,isHeadless]

def headerTable : Node := .table [] (some (.container .tableRow [] [])) [] [] []

theorem headerTable_keeps_header : (headerTable.withChildren []).children ≠ [] := by
  rw [Ne,children_withChildren_eq_iff rfl]
  simp [headerTable,remnant]

end ChatMarkup.Node
