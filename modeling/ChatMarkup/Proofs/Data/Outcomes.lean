import Mathlib.Data.List.Forall2

/-!
# Steps that may fail

Steps in a row succeed when each of them does, and otherwise fail as the first one that fails.
-/
namespace ChatMarkup
variable {ε δ α β : Type}

theorem bind_eq_ok {x : Except ε α} {f : α → Except ε β} {b : β} :
    x >>= f = .ok b ↔ ∃ a, x = .ok a ∧ f a = .ok b := by
  cases x <;> simp [bind,Except.bind]

theorem bind_eq_error {x : Except ε α} {f : α → Except ε β} {e : ε} :
    x >>= f = .error e ↔ x = .error e ∨ ∃ a, x = .ok a ∧ f a = .error e := by
  cases x <;> simp [bind,Except.bind]

theorem bind_congr_ok {x : Except ε α} {f g : α → Except ε β} (h : ∀ a, x = .ok a → f a = g a) :
    x >>= f = x >>= g := by
  cases x with
  | error e => rfl
  | ok a => exact h a rfl

/-- Steps in a row go through if the first one does and the others do whatever it gives. -/
theorem exists_bind_eq_ok {x : Except ε α} {f : α → Except ε β} {p : Prop}
    (h : ∀ a, (∃ b, f a = .ok b) ↔ p) : (∃ b, x >>= f = .ok b) ↔ (∃ a, x = .ok a) ∧ p := by
  cases x with
  | error e => simp [bind,Except.bind]
  | ok a => simpa [bind,Except.bind] using h a

theorem map_eq_ok {x : Except ε α} {f : α → β} {b : β} :
    x.map f = .ok b ↔ ∃ a, x = .ok a ∧ f a = b := by
  cases x <;> simp [Except.map]

theorem map_eq_error {x : Except ε α} {f : α → β} {e : ε} :
    x.map f = .error e ↔ x = .error e := by
  cases x <;> simp [Except.map]

theorem mapError_eq_ok {x : Except ε α} {f : ε → δ} {a : α} :
    x.mapError f = .ok a ↔ x = .ok a := by
  cases x <;> simp [Except.mapError]

theorem toOption_eq_some {x : Except ε α} {a : α} : x.toOption = some a ↔ x = .ok a := by
  cases x <;> simp [Except.toOption]

theorem mapM_eq_ok {f : α → Except ε β} {xs : List α} {ys : List β} :
    xs.mapM f = .ok ys ↔ List.Forall₂ (fun x y => f x = .ok y) xs ys := by
  induction xs generalizing ys with
  | nil => simp [pure,Except.pure,eq_comm]
  | cons x xs ih =>
    rw [List.mapM_cons,List.forall₂_cons_left_iff]
    simp only [← ih]
    cases f x with
    | error e => simp [bind,Except.bind]
    | ok y =>
      cases xs.mapM f with
      | error e => simp [bind,Except.bind]
      | ok ys => simp [bind,Except.bind,pure,Except.pure,eq_comm]

theorem exists_mapM_eq_ok {f : α → Except ε β} {xs : List α} :
    (∃ ys, xs.mapM f = .ok ys) ↔ ∀ x ∈ xs, ∃ y, f x = .ok y := by
  induction xs with
  | nil => simp [pure,Except.pure]
  | cons x xs ih =>
    rw [List.mapM_cons,List.forall_mem_cons,← ih]
    refine exists_bind_eq_ok fun y => ?_
    rw [exists_bind_eq_ok (p := True) fun ys => by simp [pure,Except.pure],and_true]

/-- Of several values, some value fails as all of them do together. -/
theorem exists_error_of_mapM {f : α → Except ε β} {xs : List α} {e : ε}
    (h : xs.mapM f = .error e) : ∃ x ∈ xs, f x = .error e := by
  induction xs with
  | nil => cases h
  | cons x xs ih =>
    rw [List.mapM_cons,bind_eq_error] at h
    rcases h with h | ⟨y,-,h⟩
    · exact ⟨x,by simp,h⟩
    · rcases bind_eq_error.mp h with h | ⟨ys,-,h⟩
      · obtain ⟨z,hz,he⟩ := ih h
        exact ⟨z,List.mem_cons_of_mem x hz,he⟩
      · cases h

end ChatMarkup
