import ChatMarkup.Proofs.Tree.Plain
import ChatMarkup.Tree.Check

/-!
# The shapes of tables

A table has its rows as children, or else a header and further rows. Giving all tables of a tree the
first shape changes nothing that readers see: not the children of a node, not its text, not where a
text is found or what is left of it after a cut, and not what a checker does.
-/
namespace ChatMarkup.Node

mutual

/-- The tree with the rows of every table as its children. -/
def oneShape : Node → Node
  | .leaf kind m => .leaf kind m
  | .container kind cs m => .container kind (oneShapeAll cs) m
  | .table body header rows align m =>
    match header, rows with
    | none, [] => .table (oneShapeAll body) none [] align m
    | none, rows => .table (oneShapeAll rows) none [] align m
    | some h, rows => .table (oneShape h :: oneShapeAll rows) none [] align m
  | .unknown name value cs m => .unknown name value (oneShapeAll cs) m

def oneShapeAll : List Node → List Node
  | [] => []
  | n :: ns => oneShape n :: oneShapeAll ns

end

theorem oneShapeAll_eq (ns : List Node) : oneShapeAll ns = ns.map oneShape := by
  induction ns with
  | nil => rw [oneShapeAll,List.map_nil]
  | cons n ns ih => rw [oneShapeAll,List.map_cons,ih]

theorem oneShape_table (body rows : List Node) (header : Option Node) (align : List Value)
    (m : List (String × Value)) : (Node.table body header rows align m).oneShape =
      .table ((tableRows body header rows).map oneShape) none [] align m := by
  rw [oneShape.eq_def]
  cases header with
  | none => cases rows <;> simp only [oneShapeAll_eq,tableRows]
  | some h => simp only [oneShapeAll_eq,tableRows,List.map_cons]

theorem oneShape_container (kind : Container) (cs : List Node) (m : List (String × Value)) :
    (Node.container kind cs m).oneShape = .container kind (cs.map oneShape) m := by
  rw [oneShape,oneShapeAll_eq]

theorem oneShape_unknown (name : String) (value : Option String) (cs : List Node)
    (m : List (String × Value)) :
    (Node.unknown name value cs m).oneShape = .unknown name value (cs.map oneShape) m := by
  rw [oneShape,oneShapeAll_eq]

theorem children_oneShape (n : Node) : n.oneShape.children = n.children.map oneShape := by
  cases n with
  | leaf => rw [oneShape]; rfl
  | container => rw [oneShape_container]; rfl
  | table => rw [oneShape_table]; rfl
  | unknown => rw [oneShape_unknown]; rfl

def usesHeader : Node → Bool
  | .table _ header rows _ _ => header.isSome || !rows.isEmpty
  | _ => false

/-- No table of the tree, seen by readers or not, has the other shape. -/
theorem everywhere_oneShape (n : Node) : n.oneShape.Everywhere fun n => n.usesHeader = false := by
  induction n using children_induction with
  | h n ih =>
    have hp : n.oneShape.usesHeader = false ∧ n.oneShape.parts = n.children.map oneShape := by
      cases n with
      | leaf => rw [oneShape]; exact ⟨rfl,rfl⟩
      | container => rw [oneShape_container]; exact ⟨rfl,rfl⟩
      | table => rw [oneShape_table]; exact ⟨rfl,by simp [parts,children]⟩
      | unknown => rw [oneShape_unknown]; exact ⟨rfl,rfl⟩
    refine .intro hp.1 fun part hm => ?_
    rw [hp.2] at hm
    obtain ⟨c,hc,rfl⟩ := List.mem_map.mp hm
    exact ih c hc

theorem stripped_oneShape (n : Node) : n.oneShape.stripped = n.stripped := by
  cases n with
  | leaf => rw [oneShape]
  | container => rw [oneShape_container]; rfl
  | table => rw [oneShape_table]; rfl
  | unknown => rw [oneShape_unknown]; rfl

/-- Readers cannot tell the shapes of tables apart. -/
theorem plain_oneShape (n : Node) : n.oneShape.plain = n.plain :=
  plain_of_map stripped_oneShape children_oneShape n

theorem rawText_oneShape (n : Node) : n.oneShape.rawText = n.rawText := by
  rw [← rawText_plain,plain_oneShape,rawText_plain]

theorem lastTextPath?_oneShape (ending : List Char) (n : Node) :
    n.oneShape.lastTextPath? ending = n.lastTextPath? ending := by
  rw [← lastTextPath?_plain,plain_oneShape,lastTextPath?_plain]

theorem misplacement?_oneShape (n c : Node) (i : ℕ) :
    misplacement? n.oneShape i c.oneShape = misplacement? n i c := by
  rw [← (sameKind_plain n.oneShape).misplacement? (sameKind_plain c.oneShape),plain_oneShape,
    plain_oneShape,(sameKind_plain n).misplacement? (sameKind_plain c)]

theorem rankComplaint?_oneShape (n : Node) : n.oneShape.rankComplaint? = n.rankComplaint? := by
  cases n with
  | leaf => rw [oneShape]
  | container kind => rw [oneShape_container]; cases kind <;> rfl
  | table => rw [oneShape_table]; rfl
  | unknown => rw [oneShape_unknown]; rfl

def visitAt (n : Node) (i : ℕ) (c : Node) : Checking Unit :=
  match misplacement? n i c with
  | some problem => complain (.place problem)
  | none => c.visit

theorem visit_eq (n : Node) :
    n.visit = (do
      n.rankComplaint?.forM complain
      (n.children.zipIdx.map fun (c,i) => visitAt n i c).forM id) := by
  rw [visit]
  conv_rhs => rw [← n.children.attach_map_subtype_val,List.zipIdx_map]
  cases n.rankComplaint? <;> simp only [List.forM_eq_forM,List.forM_map] <;> rfl

/-- A checker does the same on both trees, whatever it has come to before. -/
theorem visit_oneShape (n : Node) : n.oneShape.visit = n.visit := by
  induction n using children_induction with
  | h n ih =>
    have hc : ((n.children.map oneShape).zipIdx.map fun (c,i) => visitAt n.oneShape i c) =
        n.children.zipIdx.map fun (c,i) => visitAt n i c := by
      rw [List.zipIdx_map,List.map_map]
      refine List.map_congr_left fun x hx => ?_
      dsimp only [Function.comp_apply,Prod.map,id]
      rw [visitAt,misplacement?_oneShape,ih x.1 (List.fst_mem_of_mem_zipIdx hx),visitAt]
    rw [visit_eq,visit_eq n,rankComplaint?_oneShape,children_oneShape]
    exact congrArg (fun steps => do n.rankComplaint?.forM complain; steps.forM id) hc

end ChatMarkup.Node
