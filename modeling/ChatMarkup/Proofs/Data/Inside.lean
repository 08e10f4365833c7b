import ChatMarkup.Proofs.Data.Members

/-!
# Values in values

Lists hold their items, and objects the values of their members. What is held at any depth is
inside. A property that goes over from a value to what it holds goes over to all that is inside of
it.
-/
namespace ChatMarkup.Value

def parts : Value → List Value
  | .list items => items
  | .object members => members.map (·.2)
  | _ => []

/-- A value is held at some depth, or is the value itself. -/
inductive Inside : Value → Value → Prop
  | refl (v : Value) : Inside v v
  | part {w u v : Value} : Inside w u → u ∈ v.parts → Inside w v

theorem Inside.trans {w u v : Value} (h : Inside w u) (g : Inside u v) : Inside w v := by
  induction g with
  | refl => exact h
  | part _ hp ih => exact .part ih hp

theorem Inside.keeps {Q : Value → Prop} (hQ : ∀ v, Q v → ∀ w ∈ v.parts, Q w) {w v : Value}
    (h : Inside w v) (hv : Q v) : Q w := by
  induction h with
  | refl => exact hv
  | @part u v _ hp ih => exact ih (hQ v hv u hp)

theorem sizeOf_lt_of_mem_parts {w v : Value} (h : w ∈ v.parts) : sizeOf w < sizeOf v := by
  cases v with
  | list items =>
    have := List.sizeOf_lt_of_mem (show w ∈ items from h)
    simp only [list.sizeOf_spec]
    omega
  | object members =>
    obtain ⟨⟨k,u⟩,hm,rfl⟩ := List.mem_map.mp h
    have := List.sizeOf_lt_of_mem hm
    simp only [Prod.mk.sizeOf_spec] at this
    simp only [object.sizeOf_spec]
    omega
  | _ => cases h

theorem Inside.sizeOf_le {w v : Value} (h : Inside w v) : sizeOf w ≤ sizeOf v := by
  induction h with
  | refl => exact Nat.le_refl _
  | part _ hp ih => exact Nat.le_trans ih (Nat.le_of_lt (sizeOf_lt_of_mem_parts hp))

/-- Induction over a value by all that is inside of what it holds. -/
theorem inside_induction {P : Value → Prop}
    (h : ∀ v, (∀ u ∈ v.parts, ∀ w, Inside w u → P w) → P v) (v : Value) : P v := by
  induction hn : sizeOf v using Nat.strongRecOn generalizing v with
  | ind n ih =>
    refine h v fun u hu w hw => ih (sizeOf w) ?_ w rfl
    have := sizeOf_lt_of_mem_parts hu
    have := hw.sizeOf_le
    omega

theorem mem_parts_of_get? {ms : Members} {key : String} {v : Value} (h : ms.get? key = some v) :
    v ∈ (object ms).parts := List.mem_map_of_mem (Members.mem_of_get? h)

theorem inside_of_mem {items : List Value} {v : Value} (h : v ∈ items) : Inside v (list items) :=
  .part (.refl v) h

end ChatMarkup.Value
