import ChatMarkup.Proofs.Data.Outcomes
import ChatMarkup.Proofs.Tree.Placement
import ChatMarkup.Proofs.Tree.Replacing
import ChatMarkup.Tree.Path
import Mathlib.Data.Int.Notation

/-!
# Cutting a text

A path that a search for a text has found leads to a text, so cutting there always succeeds. The
tree that comes out has the outline of the one that went in: at every place a node of the same
kind, with as many children. Which nodes are misplaced is a matter of the outline alone.
-/
namespace ChatMarkup.Node
open Text

/-! ## Outlines -/

/-- The node without its text, its children and its further members. -/
def bare : Node → Node
  | .leaf (.text _) _ => .text ""
  | .leaf kind _ => .leaf kind []
  | .container kind _ _ => .container kind [] []
  | .table .. => .table [] none [] [] []
  | .unknown name _ _ _ => .unknown name none [] []

structure SameKind (n m : Node) : Prop where
  isTable : n.isTable = m.isTable
  isTableRow : n.isTableRow = m.isTableRow
  isTableCell : n.isTableCell = m.isTableCell
  isListItem : n.isListItem = m.isListItem
  isList : n.isList = m.isList
  holdsCells : n.holdsCells = m.holdsCells
  kindName : n.kindName = m.kindName
  parentName : n.parentName = m.parentName

theorem sameKind_bare (n : Node) : SameKind n.bare n := by
  cases n with
  | leaf kind m => cases kind <;> exact ⟨rfl,rfl,rfl,rfl,rfl,rfl,rfl,rfl⟩
  | container kind cs m => cases kind <;> exact ⟨rfl,rfl,rfl,rfl,rfl,rfl,rfl,rfl⟩
  | _ => exact ⟨rfl,rfl,rfl,rfl,rfl,rfl,rfl,rfl⟩

theorem SameKind.of_bare {n m : Node} (h : n.bare = m.bare) : SameKind n m := by
  have hn := sameKind_bare n
  rw [h] at hn
  have hm := sameKind_bare m
  constructor
  · exact hn.isTable.symm.trans hm.isTable
  · exact hn.isTableRow.symm.trans hm.isTableRow
  · exact hn.isTableCell.symm.trans hm.isTableCell
  · exact hn.isListItem.symm.trans hm.isListItem
  · exact hn.isList.symm.trans hm.isList
  · exact hn.holdsCells.symm.trans hm.holdsCells
  · exact hn.kindName.symm.trans hm.kindName
  · exact hn.parentName.symm.trans hm.parentName

/-- What is wrong with the place of a child is up to the kinds of the child and its parent. -/
theorem SameKind.misplacement? {parent parent' child child' : Node} (hp : SameKind parent parent')
    (hc : SameKind child child') (i : ℕ) :
    parent.misplacement? i child = parent'.misplacement? i child' := by
  simp only [Node.misplacement?,hp.isTable,hp.isTableRow,hp.isList,hp.holdsCells,hp.parentName,
    hc.isTableRow,hc.isTableCell,hc.isListItem,hc.kindName]

inductive Alike : Node → Node → Prop
  | intro {n m : Node} : n.bare = m.bare → n.children.length = m.children.length →
      (∀ (k : ℕ) (c d : Node), n.children[k]? = some c → m.children[k]? = some d → Alike c d) →
      Alike n m

namespace Alike
variable {n m : Node}

theorem bare (h : Alike n m) : n.bare = m.bare := by
  cases h with
  | intro hb _ _ => exact hb

theorem refl (n : Node) : Alike n n := by
  induction n using children_induction with
  | h n ih =>
    refine .intro rfl rfl fun k c d hc hd => ?_
    obtain rfl := Option.some.inj (hc.symm.trans hd)
    exact ih c (List.mem_of_getElem? hc)

theorem symm (h : Alike n m) : Alike m n := by
  induction h with
  | intro hb hl _ ih => exact .intro hb.symm hl.symm fun k c d hc hd => ih k d c hd hc

/-- Each child of the second tree stands for one of the first. -/
theorem exists_child (h : Alike n m) {k : ℕ} {d : Node} (hd : m.children[k]? = some d) :
    ∃ c, n.children[k]? = some c ∧ Alike c d := by
  cases h with
  | intro _ hl hs =>
    obtain ⟨hk,-⟩ := List.getElem?_eq_some_iff.mp hd
    have hc := List.getElem?_eq_getElem (hl.symm ▸ hk)
    exact ⟨_,hc,hs k _ d hc hd⟩

theorem sameKind (h : Alike n m) : SameKind n m := .of_bare h.bare

/-- A check reports the same for both. -/
theorem misplacements (h : Alike n m) : n.misplacements = m.misplacements := by
  induction h with
  | @intro n m hb hl hs ih =>
    rw [misplacements_eq,misplacements_eq,List.flatMap_def,List.flatMap_def]
    congr 1
    refine List.ext_getElem (by simp [hl]) fun k hk _ => ?_
    rw [List.length_map,List.length_zipIdx] at hk
    have hc := List.getElem?_eq_getElem hk
    have hd := List.getElem?_eq_getElem (hl ▸ hk)
    simp only [List.getElem_map,List.getElem_zipIdx,problemsAt,ih k _ _ hc hd,Nat.zero_add,
      (SameKind.of_bare hb).misplacement? (hs k _ _ hc hd).sameKind]

theorem wellPlaced (h : Alike n m) : WellPlaced n ↔ WellPlaced m := by
  rw [← misplacements_eq_nil_iff,← misplacements_eq_nil_iff,h.misplacements]

end Alike

/-! ## Searching and cutting -/

theorem lastTextPath?_eq (ending : List Char) (n : Node) :
    n.lastTextPath? ending =
      if n.isTextEndingIn ending then some [] else lastTextPathFrom? ending 0 n.children := by
  rw [lastTextPath?.eq_def]
  cases n with
  | leaf kind m =>
    cases kind with
    | text value => simp [isTextEndingIn,children,lastTextPathFrom?]
    | _ => simp [isTextEndingIn,children,lastTextPathFrom?]
  | container => rfl
  | table body header rows align m =>
    cases header with
    | none => cases rows <;> rfl
    | some h => simp [isTextEndingIn,children,tableRows,lastTextPathFrom?]
  | unknown => rfl

/-- Nothing is found in a row in which nothing is found in any node. -/
theorem lastTextPathFrom?_eq_none {ending : List Char} {i : ℕ} {cs : List Node} :
    lastTextPathFrom? ending i cs = none ↔ ∀ c ∈ cs, c.lastTextPath? ending = none := by
  induction cs generalizing i with
  | nil => simp [lastTextPathFrom?]
  | cons c cs ih =>
    rw [lastTextPathFrom?.eq_def]
    dsimp only
    rw [List.forall_mem_cons,← ih (i := i + 1)]
    split
    · next found hf => simp [hf]
    · next hf => simp [hf]

/-- A path that is found in a row leads to a node of the row, and from there on to a text. Nothing
is found in the nodes after it. -/
theorem of_lastTextPathFrom? {ending : List Char} {i : ℕ} {cs : List Node} {path : List ℕ}
    (h : lastTextPathFrom? ending i cs = some path) :
    ∃ k c rest, path = (i + k) :: rest ∧ cs[k]? = some c ∧ c.lastTextPath? ending = some rest ∧
      ∀ d ∈ cs.drop (k + 1), d.lastTextPath? ending = none := by
  induction cs generalizing i path with
  | nil => simp [lastTextPathFrom?] at h
  | cons c cs ih =>
    rw [lastTextPathFrom?.eq_def] at h
    dsimp only at h
    split at h
    · next found hf =>
      obtain rfl := Option.some.inj h
      obtain ⟨k,d,rest,rfl,hd,hr,ha⟩ := ih hf
      exact ⟨k+1,d,rest,by rw [Nat.add_assoc,Nat.add_comm 1],hd,hr,ha⟩
    · next hf =>
      obtain ⟨rest,hr,rfl⟩ := Option.map_eq_some_iff.mp h
      exact ⟨0,c,rest,rfl,rfl,hr,lastTextPathFrom?_eq_none.mp hf⟩

/-- A path that goes down to a child is followed from there. -/
theorem cutTextAt_cons (n : Node) (k : ℕ) (path : List ℤ) (length : ℤ) :
    n.cutTextAt (k :: path) length = match n.children[k]? with
      | none => .error .noChild
      | some c => (c.cutTextAt path length).map fun d => n.withChildren (n.children.set k d) := by
  rw [cutTextAt.eq_def]
  by_cases hk : k < n.children.length
  · have hp : place? n.children.length k = some k := by simp [place?,hk]
    simp only [hp,List.getElem?_eq_getElem hk]
    cases n.children[k].cutTextAt path length <;> rfl
  · have hp : place? n.children.length k = none := by simp [place?,hk]
    simp only [hp,List.getElem?_eq_none (Nat.le_of_not_lt hk)]

/-- What a search has found can be cut. -/
theorem exists_cutTextAt {ending : List Char} {n : Node} {path : List ℕ}
    (h : n.lastTextPath? ending = some path) (length : ℤ) :
    ∃ m, n.cutTextAt (path.map Int.ofNat) length = .ok m := by
  induction path generalizing n with
  | nil =>
    rw [lastTextPath?_eq] at h
    split at h
    · next hn =>
      unfold isTextEndingIn at hn
      split at hn
      · exact ⟨_,rfl⟩
      · cases hn
    · obtain ⟨_,_,_,hp,-⟩ := of_lastTextPathFrom? h
      cases hp
  | cons i rest ih =>
    rw [lastTextPath?_eq] at h
    split at h
    · cases h
    · obtain ⟨k,c,_,hp,hc,hr,-⟩ := of_lastTextPathFrom? h
      rw [Nat.zero_add] at hp
      obtain ⟨rfl,rfl⟩ := List.cons.inj hp
      obtain ⟨d,hd⟩ := ih hr
      rw [List.map_cons,Int.ofNat_eq_natCast,cutTextAt_cons,hc]
      exact ⟨_,map_eq_ok.mpr ⟨d,hd,rfl⟩⟩

/-! ## What is cut out of -/

theorem set_children_ne_nil {n c : Node} {k : ℕ} (hc : n.children[k]? = some c) (d : Node) :
    n.children.set k d ≠ [] :=
  mt (List.set_eq_nil_iff k d).mp (List.ne_nil_of_mem (List.mem_of_getElem? hc))

theorem children_withChildren_set {n c : Node} {k : ℕ} (hc : n.children[k]? = some c) (d : Node) :
    (n.withChildren (n.children.set k d)).children = n.children.set k d := by
  have hn : n.isLeaf = false := by
    cases n with
    | leaf => simp [children] at hc
    | _ => rfl
  exact (children_withChildren_eq_iff hn _).mpr (.inl (set_children_ne_nil hc d))

theorem label_withChildren_set {n c : Node} {k : ℕ} (hc : n.children[k]? = some c) (d : Node) :
    (n.withChildren (n.children.set k d)).label = n.label :=
  (label_withChildren_eq_iff n _).mpr (.inl (set_children_ne_nil hc d))

theorem bare_withChildren (n : Node) (cs : List Node) : (n.withChildren cs).bare = n.bare := by
  cases n with
  | table body header rows align m => cases header <;> cases rows <;> cases cs <;> rfl
  | _ => rfl

/-- Putting an alike child in the place of another keeps the outline. -/
theorem alike_withChildren_set {n c d : Node} {k : ℕ} (hc : n.children[k]? = some c)
    (h : Alike c d) : Alike n (n.withChildren (n.children.set k d)) := by
  have hs := children_withChildren_set hc d
  refine .intro (bare_withChildren n _).symm (by rw [hs,List.length_set]) fun j x y hx hy => ?_
  rw [hs] at hy
  by_cases hj : k = j
  · subst hj
    rw [List.getElem?_set_self (List.getElem?_eq_some_iff.mp hc).1] at hy
    obtain rfl := Option.some.inj hy
    obtain rfl := Option.some.inj (hc.symm.trans hx)
    exact h
  · rw [List.getElem?_set_ne hj] at hy
    obtain rfl := Option.some.inj (hx.symm.trans hy)
    exact .refl x

/-- Cutting keeps the outline. -/
theorem alike_cutTextAt {n m : Node} {path : List ℕ} {length : ℤ}
    (h : n.cutTextAt (path.map Int.ofNat) length = .ok m) : Alike n m := by
  induction path generalizing n m with
  | nil =>
    rw [List.map_nil,cutTextAt.eq_def] at h
    dsimp only at h
    split at h
    · obtain rfl := Except.ok.inj h
      exact .intro rfl rfl fun k c d hc _ => by simp [children] at hc
    · cases h
  | cons k rest ih =>
    rw [List.map_cons,Int.ofNat_eq_natCast,cutTextAt_cons] at h
    split at h
    · cases h
    · next c hc =>
      obtain ⟨d,hd,rfl⟩ := map_eq_ok.mp h
      exact alike_withChildren_set hc (ih hd)

end ChatMarkup.Node
