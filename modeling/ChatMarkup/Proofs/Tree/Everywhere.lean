import ChatMarkup.Tree.Basic

/-!
# Properties of all nodes

A property of single nodes holds everywhere in a tree if the node at its top has it and it holds
everywhere in the trees right below. Proofs about whole trees go by induction on this.
-/
namespace ChatMarkup.Node

/-- All nodes right below a node, seen by readers or not. -/
def parts : Node → List Node
  | .leaf .. => []
  | .container _ cs _ => cs
  | .table body header rows _ _ => body ++ header.toList ++ rows
  | .unknown _ _ cs _ => cs

theorem sizeOf_lt_of_mem_parts {part n : Node} (h : part ∈ n.parts) : sizeOf part < sizeOf n := by
  cases n with
  | leaf => cases h
  | container kind cs m =>
    have := List.sizeOf_lt_of_mem (show part ∈ cs from h)
    simp only [container.sizeOf_spec]
    omega
  | table body header rows align m =>
    simp only [parts,List.mem_append,Option.mem_toList] at h
    simp only [table.sizeOf_spec]
    rcases h with (hb | rfl) | hr
    · have := List.sizeOf_lt_of_mem hb
      omega
    · simp only [Option.some.sizeOf_spec]
      omega
    · have := List.sizeOf_lt_of_mem hr
      omega
  | unknown name value cs m =>
    have := List.sizeOf_lt_of_mem (show part ∈ cs from h)
    simp only [unknown.sizeOf_spec]
    omega

/-- Induction over a tree by the trees right below. -/
theorem parts_induction {P : Node → Prop} (h : ∀ n, (∀ part ∈ n.parts, P part) → P n) (n : Node) :
    P n :=
  h n fun part _ => parts_induction h part
termination_by sizeOf n
decreasing_by exact sizeOf_lt_of_mem_parts (by assumption)

inductive Everywhere (p : Node → Prop) : Node → Prop
  | intro {n : Node} : p n → (∀ part ∈ n.parts, Everywhere p part) → Everywhere p n

theorem Everywhere.of_alone {p : Node → Prop} {n : Node} (h : p n) (hn : n.parts = []) :
    Everywhere p n :=
  .intro h (by simp [hn])

theorem Everywhere.and {p q : Node → Prop} {n : Node} (hp : Everywhere p n)
    (hq : Everywhere q n) : Everywhere (fun n => p n ∧ q n) n := by
  induction hp with
  | intro hn _ ih =>
    cases hq with
    | intro hm hr => exact .intro ⟨hn,hm⟩ fun part hp => ih part hp (hr part hp)

theorem Everywhere.mono {p q : Node → Prop} (hpq : ∀ n, p n → q n) {n : Node}
    (h : Everywhere p n) : Everywhere q n := by
  induction h with
  | intro hn _ ih => exact .intro (hpq _ hn) ih

end ChatMarkup.Node
