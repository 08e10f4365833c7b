import ChatMarkup.Proofs.Tree.Everywhere
import ChatMarkup.Tree.Validate
import Mathlib.Data.Nat.Notation
import Mathlib.Tactic.SplitIfs

/-!
# The places of nodes

A check of a tree reports nothing if and only if every child that readers see stands in its place.
Which place that is depends on the kinds of the child and its parent alone.
-/
namespace ChatMarkup.Node

/-! ## Children -/

theorem mem_parts_of_mem_children {n c : Node} (h : c ∈ n.children) : c ∈ n.parts := by
  cases n with
  | leaf => cases h
  | container => exact h
  | table body header rows align m =>
    simp only [children] at h
    unfold tableRows at h
    simp only [parts,List.mem_append,Option.mem_toList]
    split at h
    · rcases List.mem_cons.mp h with rfl | hr
      · exact .inl (.inr rfl)
      · exact .inr hr
    · exact .inl (.inl h)
    · exact .inr h
  | unknown => exact h

theorem size_lt_of_size_le {n c : Node} {bound : ℕ} (hs : n.size ≤ bound)
    (hc : c ∈ n.children) : c.size < bound :=
  Nat.lt_of_lt_of_le (size_lt_of_mem_children hc) hs

/-- Induction over a tree by the children that readers see. -/
theorem children_induction {P : Node → Prop} (h : ∀ n, (∀ c ∈ n.children, P c) → P n)
    (n : Node) : P n :=
  parts_induction (fun n ih => h n fun c hc => ih c (mem_parts_of_mem_children hc)) n

inductive Throughout (p : Node → Prop) : Node → Prop
  | intro {n : Node} : p n → (∀ c ∈ n.children, Throughout p c) → Throughout p n

namespace Throughout
variable {p q : Node → Prop} {n : Node}

theorem root (h : n.Throughout p) : p n := by
  cases h with
  | intro hn _ => exact hn

theorem child (h : n.Throughout p) {c : Node} (hc : c ∈ n.children) : c.Throughout p := by
  cases h with
  | intro _ hs => exact hs c hc

theorem mono (hpq : ∀ n, p n → q n) (h : n.Throughout p) : n.Throughout q := by
  induction h with
  | intro hn _ ih => exact .intro (hpq _ hn) ih

end Throughout

/-! ## What a check reports -/

/-- What is reported for a child: that it is misplaced, or else what is reported below it. -/
def problemsAt (parent : Node) (i : ℕ) (child : Node) : List Misplacement :=
  match misplacement? parent i child with
  | some problem => [problem]
  | none => child.misplacements

theorem misplacementsFrom_eq (parent : Node) (i : ℕ) (cs : List Node) :
    misplacementsFrom parent i cs =
      (cs.zipIdx i).flatMap fun (child,j) => problemsAt parent j child := by
  induction cs generalizing i with
  | nil => rw [misplacementsFrom.eq_def]; rfl
  | cons c cs ih =>
    rw [misplacementsFrom.eq_def,List.zipIdx_cons,List.flatMap_cons,← ih]
    rfl

/-- A check goes through the children in order, and reports a problem for each or what is below. -/
theorem misplacements_eq (n : Node) :
    n.misplacements = n.children.zipIdx.flatMap fun (child,i) => problemsAt n i child := by
  rw [← misplacementsFrom_eq,misplacements.eq_def]
  cases n with
  | leaf => rw [misplacementsFrom.eq_def]; rfl
  | container => rfl
  | table body header rows align m =>
    cases header with
    | none => cases rows <;> rfl
    | some h => rfl
  | unknown => rfl

/-! ## Places -/

/-- A child stands in its place: tables hold rows and rows hold cells, items stand in lists, and
rows and cells stand in tables. -/
structure InPlace (parent child : Node) : Prop where
  row : parent.isTable = true → child.isTableRow = true
  cell : parent.isTableRow = true → child.isTableCell = true
  item : child.isListItem = true → parent.isList = true
  tabular : child.isTableRow = true ∨ child.isTableCell = true → parent.holdsCells = true

theorem misplacement?_eq_none_iff {parent child : Node} {i : ℕ} :
    misplacement? parent i child = none ↔ InPlace parent child := by
  unfold misplacement?
  constructor
  · intro h
    split_ifs at h
    constructor <;> simp_all
  · rintro ⟨hr,hc,hi,ht⟩
    split_ifs <;> simp_all

def WellPlaced (n : Node) : Prop := n.Throughout fun n => ∀ c ∈ n.children, InPlace n c

theorem problemsAt_eq_nil_iff {parent child : Node} {i : ℕ} :
    problemsAt parent i child = [] ↔ InPlace parent child ∧ child.misplacements = [] := by
  rw [← misplacement?_eq_none_iff (i := i),problemsAt]
  cases misplacement? parent i child <;> simp

/-- A check reports nothing if and only if all stands in its place. -/
theorem misplacements_eq_nil_iff {n : Node} : n.misplacements = [] ↔ WellPlaced n := by
  induction n using children_induction with
  | h n ih =>
    have hm : n.misplacements = [] ↔
        ∀ c ∈ n.children, InPlace n c ∧ c.misplacements = [] := by
      rw [misplacements_eq,List.flatMap_eq_nil_iff]
      simp only [problemsAt_eq_nil_iff]
      constructor
      · intro h c hc
        obtain ⟨i,hi,rfl⟩ := List.mem_iff_getElem.mp hc
        exact h (_,i) (List.mem_zipIdx_iff_getElem?.mpr (List.getElem?_eq_getElem hi))
      · intro h x hx
        exact h x.1 (List.fst_mem_of_mem_zipIdx hx)
    rw [hm]
    constructor
    · intro h
      exact .intro (fun c hc => (h c hc).1) fun c hc => (ih c hc).mp (h c hc).2
    · intro h c hc
      exact ⟨h.root c hc,(ih c hc).mpr (h.child hc)⟩

end ChatMarkup.Node
