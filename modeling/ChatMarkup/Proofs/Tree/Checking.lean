import ChatMarkup.Proofs.Tree.Canonical
import ChatMarkup.Proofs.Tree.Placement
import ChatMarkup.Tree.Check

/-!
# What a checker finds

A checker that is not strict collects one complaint for each child in the wrong place that it comes
to, and it comes to all that lies below children in their places only. The complaints stand in the
order of the document. A strict checker ends with the first of them. Ranks of headings give no cause
for complaint in a tree that was read from data, as the reading itself sees to them.
-/
namespace ChatMarkup.Node

/-! ## Complaining -/

/-- How a checker ends that has these complaints to make. -/
def Checker.hear (k : Checker) : List Complaint → EStateM.Result Complaint Checker Unit
  | [] => .ok () k
  | c :: rest =>
    let heard : Checker := { k with complaints := k.complaints ++ [c] }
    if k.strict then .error c heard else heard.hear rest

theorem Checker.hear_append (k : Checker) (cs ds : List Complaint) :
    k.hear (cs ++ ds) = match k.hear cs with
      | .ok _ heard => heard.hear ds
      | .error c heard => .error c heard := by
  induction cs generalizing k with
  | nil => rfl
  | cons c cs ih =>
    rw [List.cons_append,hear,hear]
    split_ifs
    · rfl
    · exact ih _

/-- A checker that is not strict keeps all complaints. -/
theorem Checker.hear_all {k : Checker} (h : k.strict = false) (cs : List Complaint) :
    k.hear cs = .ok () { k with complaints := k.complaints ++ cs } := by
  induction cs generalizing k with
  | nil => rw [hear,List.append_nil]
  | cons c cs ih =>
    rw [hear,if_neg (by simp [h]),ih (by exact h)]
    simp

/-- What is done amounts to these complaints, whoever does it. -/
def Makes (x : Checking Unit) (cs : List Complaint) : Prop := ∀ k, x.run k = k.hear cs

namespace Makes
variable {x y : Checking Unit} {cs ds : List Complaint}

theorem pure : Makes (Pure.pure ()) [] := fun _ => rfl

theorem complain (c : Complaint) : Makes (Node.complain c) [c] := by
  intro k
  obtain ⟨strict,complaints⟩ := k
  cases strict <;> rfl

theorem bind (hx : Makes x cs) (hy : Makes y ds) : Makes (do x; y) (cs ++ ds) := by
  intro k
  rw [Checker.hear_append,← hx k]
  change EStateM.bind x (fun _ => y) k = _
  unfold EStateM.bind EStateM.run
  cases x k with
  | ok _ heard => exact hy heard
  | error c heard => rfl

theorem forM {α : Type} {l : List α} {f : α → Checking Unit} {g : α → List Complaint}
    (h : ∀ a ∈ l, Makes (f a) (g a)) : Makes (l.forM f) (l.flatMap g) := by
  induction l with
  | nil => exact pure
  | cons a l ih =>
    rw [List.flatMap_cons]
    exact (h a List.mem_cons_self).bind (ih fun b hb => h b (List.mem_cons_of_mem a hb))

end Makes

/-- A check of a tree whose headings have ranks in range complains about misplaced nodes. -/
theorem makes_visit {n : Node} (h : n.Throughout fun n => n.rankComplaint? = none) :
    Makes n.visit (n.misplacements.map .place) := by
  -- a child in the wrong place ends the descent in both, so only the others need the induction
  induction n using children_induction with
  | h n ih =>
    have hc : n.misplacements.map Complaint.place =
        n.children.attach.zipIdx.flatMap fun (c,i) => (problemsAt n i c.1).map .place := by
      rw [misplacements_eq,List.map_flatMap]
      conv_lhs => rw [← n.children.attach_map_subtype_val,List.zipIdx_map,List.flatMap_map]
      rfl
    rw [visit.eq_def,h.root,hc]
    refine Makes.pure.bind (Makes.forM fun a _ => ?_)
    obtain ⟨⟨c,hm⟩,i⟩ := a
    dsimp only
    rw [problemsAt]
    cases misplacement? n i c with
    | some problem => exact Makes.complain _
    | none => exact ih c hm (h.child hm)

/-! ## Trees that were read -/

def Loaded (n : Node) : Prop := ∃ mode v, load mode v = .ok n

theorem rankComplaint?_of_keepsKind {mode : LoadMode} {n : Node} (h : n.KeepsKind mode) :
    n.rankComplaint? = none := by
  unfold rankComplaint?
  split
  · exact if_pos h.1
  · rfl

theorem Everywhere.throughout {p : Node → Prop} {n : Node} (h : Everywhere p n) :
    n.Throughout p := by
  induction h with
  | intro hn _ ih => exact .intro hn fun c hc => ih c (mem_parts_of_mem_children hc)

/-- A reading sees to it that all headings have ranks in range. -/
theorem Loaded.ranked {n : Node} (h : Loaded n) :
    n.Throughout fun n => n.rankComplaint? = none := by
  obtain ⟨mode,v,hl⟩ := h
  have he : Everywhere (fun n => n.rankComplaint? = none) n :=
    everywhere_of_load (Q := fun _ => True) (fun _ _ _ _ => trivial)
      (fun _ _ _ hn => rankComplaint?_of_keepsKind hn.keeps.2) trivial hl
  exact he.throughout

/-- The complaints of a fresh checker that has been through a tree and is not strict. -/
def collected (n : Node) : List Complaint :=
  match n.visit.run { strict := false } with
  | .ok _ k => k.complaints
  | .error _ k => k.complaints

theorem collected_eq {n : Node} (h : n.Throughout fun n => n.rankComplaint? = none) :
    n.collected = n.misplacements.map .place := by
  rw [collected,makes_visit h,Checker.hear_all rfl]
  rfl

/-- Whoever checks the tree complains about what a fresh checker collects. -/
theorem Loaded.makes {n : Node} (h : Loaded n) : Makes n.visit n.collected := by
  rw [collected_eq h.ranked]
  exact makes_visit h.ranked

/-! ## Children in the wrong place -/

/-- A child of a node in a tree, and the path on which the node is reached from the top. -/
structure Edge where
  path : List ℕ
  parent : Node
  index : ℕ
  child : Node

namespace Edge

def place (e : Edge) : List ℕ := e.path ++ [e.index]

/-- The edge in a tree in which its own tree is the child at this position. -/
def below (e : Edge) (i : ℕ) : Edge := { e with path := i :: e.path }

theorem place_below (e : Edge) (i : ℕ) : (e.below i).place = i :: e.place := rfl

end Edge

inductive Reaches : Node → List ℕ → Node → Prop
  | top (n : Node) : Reaches n [] n
  | step {n c m : Node} {i : ℕ} {path : List ℕ} : n.children[i]? = some c → InPlace n c →
      Reaches c path m → Reaches n (i :: path) m

/-- A node that is reached has a child in the wrong place. -/
structure Offends (n : Node) (e : Edge) : Prop where
  reached : Reaches n e.path e.parent
  child : e.parent.children[e.index]? = some e.child
  misplaced : ¬InPlace e.parent e.child

section
variable {n c : Node} {i : ℕ} {e : Edge}

theorem Offends.below (hc : n.children[i]? = some c) (hp : InPlace n c) (h : Offends c e) :
    Offends n (e.below i) :=
  ⟨.step hc hp h.reached,h.child,h.misplaced⟩

/-- A child in the wrong place is one of the top node, or lies below one that stands in its place. -/
theorem offends_iff : Offends n e ↔ ∃ i c, n.children[i]? = some c ∧
    (¬InPlace n c ∧ e = ⟨[],n,i,c⟩ ∨ InPlace n c ∧ ∃ f, Offends c f ∧ f.below i = e) := by
  constructor
  · rintro ⟨hr,hc,hm⟩
    obtain ⟨path,parent,index,child⟩ := e
    cases hr with
    | top => exact ⟨index,child,hc,.inl ⟨hm,rfl⟩⟩
    | @step _ c _ i path hi hp hr =>
      exact ⟨i,c,hi,.inr ⟨hp,⟨path,parent,index,child⟩,⟨hr,hc,hm⟩,rfl⟩⟩
  · rintro ⟨i,c,hc,⟨hm,rfl⟩ | ⟨hp,f,hf,rfl⟩⟩
    · exact ⟨.top n,hc,hm⟩
    · exact hf.below hc hp

end

/-- The children in the wrong place that are reached in a tree, in the order of the document. -/
def offences (n : Node) : List Edge :=
  n.children.attach.zipIdx.flatMap fun (⟨c,hc⟩,i) =>
    match misplacement? n i c with
    | some _ => [⟨[],n,i,c⟩]
    | none =>
      have := size_lt_of_mem_children hc
      c.offences.map fun e => e.below i
termination_by n.size

/-- What there is at a child: the child itself, if it is in the wrong place, or all below. -/
def offencesAt (n : Node) (i : ℕ) (c : Node) : List Edge :=
  match misplacement? n i c with
  | some _ => [⟨[],n,i,c⟩]
  | none => c.offences.map fun e => e.below i

theorem offences_eq (n : Node) :
    n.offences = n.children.zipIdx.flatMap fun (c,i) => offencesAt n i c := by
  rw [offences]
  conv_rhs => rw [← n.children.attach_map_subtype_val,List.zipIdx_map,List.flatMap_map]
  rfl

theorem mem_offencesAt {n c : Node} {i : ℕ} {e : Edge} : e ∈ offencesAt n i c ↔
    ¬InPlace n c ∧ e = ⟨[],n,i,c⟩ ∨ InPlace n c ∧ ∃ f ∈ c.offences, f.below i = e := by
  rw [← misplacement?_eq_none_iff (i := i),offencesAt]
  cases misplacement? n i c <;> simp

theorem mem_offences {n : Node} {e : Edge} : e ∈ n.offences ↔ Offends n e := by
  induction n using children_induction generalizing e with
  | h n ih =>
    rw [offences_eq,offends_iff,List.mem_flatMap,Prod.exists,exists_comm]
    refine exists_congr fun i => exists_congr fun c => ?_
    rw [List.mem_zipIdx_iff_getElem?,mem_offencesAt]
    refine and_congr_right fun hc => or_congr_right (and_congr_right fun _ => ?_)
    exact exists_congr fun f => and_congr_left fun _ => ih c (List.mem_of_getElem? hc)

theorem pairwise_snd_lt_zipIdx {α : Type} (l : List α) :
    l.zipIdx.Pairwise fun x y => x.2 < y.2 := by
  rw [List.pairwise_iff_getElem]
  intro i j hi hj hij
  simpa using hij

theorem head_of_mem_offencesAt {n c : Node} {i : ℕ} {e : Edge} (h : e ∈ offencesAt n i c) :
    ∃ rest, e.place = i :: rest := by
  rcases mem_offencesAt.mp h with ⟨-,rfl⟩ | ⟨-,f,-,rfl⟩
  · exact ⟨[],rfl⟩
  · exact ⟨f.place,f.place_below i⟩

/-- Places go by the order of the document. -/
theorem pairwise_place_offences (n : Node) :
    n.offences.Pairwise fun e f => e.place < f.place := by
  induction n using children_induction with
  | h n ih =>
    rw [offences_eq,List.pairwise_flatMap]
    constructor
    · rintro ⟨c,i⟩ hc
      dsimp only
      rw [offencesAt]
      cases misplacement? n i c with
      | some problem => exact List.pairwise_singleton _ _
      | none =>
        have hs := ih c (List.fst_mem_of_mem_zipIdx hc)
        exact List.pairwise_map.mpr (hs.imp fun h => List.cons_lt_cons_iff.mpr (.inr ⟨rfl,h⟩))
    · refine (pairwise_snd_lt_zipIdx n.children).imp fun hij e he f hf => ?_
      obtain ⟨rest,hr⟩ := head_of_mem_offencesAt he
      obtain ⟨rest',hr'⟩ := head_of_mem_offencesAt hf
      rw [hr,hr']
      exact List.cons_lt_cons_iff.mpr (.inl hij)

/-- For each of them there is one problem, which is about this very child. -/
theorem forall₂_offences (n : Node) :
    List.Forall₂ (fun e p => misplacement? e.parent e.index e.child = some p) n.offences
      n.misplacements := by
  induction n using children_induction with
  | h n ih =>
    rw [offences_eq,misplacements_eq,List.flatMap_def,List.flatMap_def]
    refine List.rel_flatten ?_
    rw [List.forall₂_map_left_iff,List.forall₂_map_right_iff,List.forall₂_same]
    rintro ⟨c,i⟩ hc
    dsimp only
    rw [offencesAt,problemsAt]
    cases hm : misplacement? n i c with
    | some problem => exact .cons hm .nil
    | none =>
      dsimp only
      rw [List.forall₂_map_left_iff]
      exact ih c (List.fst_mem_of_mem_zipIdx hc)

/-! ## All that is found -/

/-- Of loaded trees, a checker that is not strict collects nothing if and only if all stands in its
place, and otherwise one complaint for each child in the wrong place that is reached, in the order
of the document. A strict one ends with the first of these complaints, if there is any. Going through
several trees in turn, a checker that is not strict has the complaints of one after the other. -/
theorem visit_exact {ns : List Node} (h : ∀ n ∈ ns, Loaded n) :
    (∀ n ∈ ns,
      n.visit.run { strict := false } = .ok () { strict := false, complaints := n.collected } ∧
      (n.collected = [] ↔ WellPlaced n) ∧
      (∃ edges : List Edge, edges.Pairwise (fun e f => e.place < f.place) ∧
        (∀ e, e ∈ edges ↔ Offends n e) ∧
        List.Forall₂ (fun e c =>
          (misplacement? e.parent e.index e.child).map .place = some c) edges n.collected) ∧
      n.visit.run { strict := true } = match n.collected with
        | [] => .ok () { strict := true }
        | c :: _ => .error c { strict := true, complaints := [c] }) ∧
    EStateM.run (ns.forM visit) { strict := false } =
      .ok () { strict := false, complaints := ns.flatMap collected } := by
  constructor
  · intro n hn
    have hc := collected_eq (h n hn).ranked
    have hm := (h n hn).makes
    refine ⟨?_,?_,⟨n.offences,pairwise_place_offences n,fun e => mem_offences,?_⟩,?_⟩
    · rw [hm,Checker.hear_all rfl]
      rfl
    · rw [hc,List.map_eq_nil_iff,misplacements_eq_nil_iff]
    · rw [hc,List.forall₂_map_right_iff]
      exact (forall₂_offences n).imp fun e p he => by rw [he]; rfl
    · rw [hm]
      cases n.collected <;> rfl
  · have hm : Makes (ns.forM visit) (ns.flatMap collected) := Makes.forM fun n hn => (h n hn).makes
    rw [hm,Checker.hear_all rfl]
    rfl

def strayTree : Node :=
  let item : Node := .container (.listItem none) [] []
  .document [.container .paragraph [item] [],
    .table [.container .paragraph [item] [],.container .tableRow [.text "a"] []] none [] [] []]

theorem loaded_strayTree : Loaded strayTree := by
  let item : Value := .object [("type",.text "listItem")]
  let paragraph : Value := .object [("type",.text "paragraph"),("children",.list [item])]
  let letter : Value := .object [("type",.text "text"),("value",.text "a")]
  let row : Value := .object [("type",.text "tableRow"),("children",.list [letter])]
  let table : Value := .object [("type",.text "table"),("children",.list [paragraph,row])]
  exact ⟨.strict,.object [("type",.text "root"),("children",.list [paragraph,table])],rfl⟩

/-- What is below the paragraph in the table is not looked at. -/
theorem collected_strayTree : strayTree.collected =
    [.place (.strayItem "Paragraph"),.place (.wrongChild "Table" 0 "TableRow" "Paragraph"),
      .place (.wrongChild "TableRow" 0 "TableCell" "Text")] := by
  rw [collected_eq loaded_strayTree.ranked]
  decide

/-- Twice the same tree. -/
theorem visit_exact_strayTree : (∀ n ∈ [strayTree,strayTree], Loaded n) ∧
    strayTree.visit.run { strict := true } = .error (.place (.strayItem "Paragraph"))
      { strict := true, complaints := [.place (.strayItem "Paragraph")] } ∧
    EStateM.run ([strayTree,strayTree].forM visit) { strict := false } =
      .ok () { strict := false, complaints := strayTree.collected ++ strayTree.collected } := by
  have hl : ∀ n ∈ [strayTree,strayTree], Loaded n := by simp [loaded_strayTree]
  have hv := visit_exact hl
  refine ⟨hl,?_,?_⟩
  · rw [(hv.1 strayTree (by simp)).2.2.2,collected_strayTree]
  · rw [hv.2]
    simp

end ChatMarkup.Node
