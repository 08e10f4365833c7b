import ChatMarkup.Data.Value
import Mathlib.Data.List.Induction
import Mathlib.Data.List.Nodup
import Mathlib.Tactic.SplitIfs

/-!
# Members by name

A name finds the first member that has it. So in a row of members behind another, a name that the
first row has hides the second row, and a name that it lacks is looked up in the second. A member
that is set keeps the names apart, and changes no value but its own.
-/
namespace ChatMarkup.Members
variable {ms ns : Members} {key : String} {v : Value}

@[simp] theorem get?_nil (key : String) : get? [] key = none := rfl

theorem get?_cons (k : String) (v : Value) (ms : Members) (key : String) :
    get? ((k,v) :: ms) key = if k = key then some v else get? ms key := by
  by_cases h : k = key
  · simp [get?,h]
  · have h' : (key == k) = false := by simpa using Ne.symm h
    simp [get?,List.lookup_cons,h,h']

theorem get?_append (ms ns : Members) (key : String) :
    get? (ms ++ ns) key = (get? ms key).or (get? ns key) := List.lookup_append

theorem get?_eq_none_iff : get? ms key = none ↔ key ∉ keys ms := by
  rw [get?,List.lookup_eq_none_iff]
  simp only [keys,List.mem_map,not_exists,not_and,bne_iff_ne]
  exact ⟨fun h p hp e => h p hp e.symm,fun h p hp e => h p hp e.symm⟩

theorem mem_of_get? (h : get? ms key = some v) : (key,v) ∈ ms := by
  induction ms with
  | nil => cases h
  | cons m ms ih =>
    obtain ⟨k,w⟩ := m
    rw [get?_cons] at h
    split at h
    · next hk =>
      rw [hk,Option.some_inj.mp h]
      simp
    · exact List.mem_cons_of_mem _ (ih h)

theorem get?_of_mem (hn : (keys ms).Nodup) (h : (key,v) ∈ ms) : get? ms key = some v := by
  induction ms with
  | nil => cases h
  | cons m ms ih =>
    obtain ⟨k,w⟩ := m
    obtain ⟨hk,hn⟩ := List.nodup_cons.mp hn
    rw [get?_cons]
    rcases List.mem_cons.mp h with h | h
    · obtain ⟨rfl,rfl⟩ := Prod.mk.inj h
      exact if_pos rfl
    · rw [if_neg (fun e => hk (List.mem_map.mpr ⟨_,h,e.symm⟩)),ih hn h]

theorem get?_reverse (hn : (keys ms).Nodup) (key : String) : get? ms.reverse key = get? ms key := by
  cases h : get? ms key with
  | none =>
    rw [get?_eq_none_iff] at h ⊢
    simpa [keys] using h
  | some v =>
    refine get?_of_mem ?_ (List.mem_reverse.mpr (mem_of_get? h))
    rw [keys,List.map_reverse]
    exact List.nodup_reverse.mpr hn

theorem get?_eq_find? (ms : Members) (key : String) :
    get? ms key = (ms.find? fun m => m.1 == key).map Prod.snd := by
  induction ms with
  | nil => rfl
  | cons m ms ih =>
    obtain ⟨k,w⟩ := m
    rw [get?_cons,ih,List.find?_cons]
    by_cases h : k = key
    · simp [h]
    · simp [h,beq_false_of_ne h]

theorem has_eq_true_iff : has ms key = true ↔ key ∈ keys ms := by
  simp [has,keys]

theorem keys_append (ms ns : Members) : keys (ms ++ ns) = keys ms ++ keys ns := List.map_append

/-- A member that is given a value has it, and all others keep theirs. -/
theorem get?_set (ms : Members) (k : String) (v : Value) (key : String) :
    get? (set ms k v) key = if k = key then some v else get? ms key := by
  induction ms with
  | nil => rw [set,get?_cons]
  | cons m ms ih =>
    obtain ⟨l,w⟩ := m
    rw [set]
    split
    · next h =>
      obtain rfl := beq_iff_eq.mp h
      rw [get?_cons,get?_cons]
      split_ifs <;> rfl
    · next h =>
      have hl : l ≠ k := by simpa using h
      rw [get?_cons,get?_cons,ih]
      split_ifs with h₁ h₂
      · exact absurd (h₁.trans h₂.symm) hl
      all_goals rfl

/-- Of several values for a member the last one stays. -/
theorem get?_setAll (ms us : Members) (key : String) :
    get? (setAll ms us) key = (get? us.reverse key).or (get? ms key) := by
  induction us generalizing ms with
  | nil => rfl
  | cons u us ih =>
    obtain ⟨k,w⟩ := u
    have hs : setAll ms ((k,w) :: us) = setAll (set ms k w) us := rfl
    rw [hs,ih,get?_set,List.reverse_cons,get?_append,get?_cons]
    split_ifs <;> cases get? us.reverse key <;> rfl

theorem set_of_notMem (h : key ∉ keys ms) : set ms key v = ms ++ [(key,v)] := by
  induction ms with
  | nil => rfl
  | cons m ms ih =>
    obtain ⟨k,w⟩ := m
    simp only [keys,List.map_cons,List.mem_cons,not_or] at h
    have hk : (k == key) = false := beq_false_of_ne (Ne.symm h.1)
    rw [set,hk,if_neg Bool.false_ne_true,ih h.2,List.cons_append]

theorem mem_of_mem_set {x : String × Value} (h : x ∈ set ms key v) : x ∈ ms ∨ x = (key,v) := by
  induction ms with
  | nil => exact .inr (List.mem_singleton.mp h)
  | cons m ms ih =>
    obtain ⟨l,w⟩ := m
    rw [set] at h
    split at h
    · next hl =>
      obtain rfl := beq_iff_eq.mp hl
      rcases List.mem_cons.mp h with h | h
      · exact .inr h
      · exact .inl (List.mem_cons_of_mem _ h)
    · rcases List.mem_cons.mp h with rfl | h
      · simp
      · rcases ih h with h | h
        · exact .inl (List.mem_cons_of_mem _ h)
        · exact .inr h

theorem keys_cons (k : String) (v : Value) (ms : Members) : keys ((k,v) :: ms) = k :: keys ms :=
  rfl

theorem keys_set (ms : Members) (key : String) (v : Value) :
    keys (set ms key v) = if key ∈ keys ms then keys ms else keys ms ++ [key] := by
  induction ms with
  | nil => rfl
  | cons m ms ih =>
    obtain ⟨l,w⟩ := m
    rw [set]
    split
    · next hl =>
      obtain rfl := beq_iff_eq.mp hl
      simp [keys_cons]
    · next hl =>
      have hl : key ≠ l := fun h => hl (beq_iff_eq.mpr h.symm)
      simp only [keys_cons,List.mem_cons,hl,false_or]
      rw [ih]
      split_ifs <;> rfl

theorem setAll_append (ms us vs : Members) :
    setAll ms (us ++ vs) = setAll (setAll ms us) vs := List.foldl_append

/-- Members stand in the order in which their names come first. -/
theorem keys_ofPairs (pairs : Members) : keys (ofPairs pairs) = (keys pairs).eraseDups := by
  induction pairs using List.reverseRecOn with
  | nil => rfl
  | append_singleton us u ih =>
    have hs : ofPairs (us ++ [u]) = set (ofPairs us) u.1 u.2 := setAll_append [] us [u]
    have hu : keys [u] = [u.1] := rfl
    rw [hs,keys_set,ih,keys_append,hu,List.eraseDups_append]
    by_cases h : u.1 ∈ keys us
    · simp [h,List.removeAll]
    · simp [h,List.removeAll,List.eraseDups_cons]

theorem nodup_keys_nil : (keys []).Nodup := List.nodup_nil

theorem nodup_concat {x : String × Value} (h : (keys ms).Nodup) (hx : x.1 ∉ keys ms) :
    (keys (ms ++ [x])).Nodup := by
  rw [keys_append,List.nodup_append]
  refine ⟨h,by simp [keys],?_⟩
  rintro key hk _ hs rfl
  obtain rfl : key = x.1 := List.mem_singleton.mp hs
  exact hx hk

theorem nodup_set (h : (keys ms).Nodup) (key : String) (v : Value) :
    (keys (set ms key v)).Nodup := by
  by_cases hk : key ∈ keys ms
  · rw [keys_set,if_pos hk]
    exact h
  · rw [set_of_notMem hk]
    exact nodup_concat h hk

/-- Members that are set one after the other have names of their own, and values that were set. -/
theorem setAll_spec (h : (keys ms).Nodup) (us : Members) :
    (keys (setAll ms us)).Nodup ∧ ∀ x ∈ setAll ms us, x ∈ ms ∨ x ∈ us := by
  induction us generalizing ms with
  | nil => exact ⟨h,fun x hx => .inl hx⟩
  | cons u us ih =>
    obtain ⟨hn,hm⟩ := ih (nodup_set h u.1 u.2)
    refine ⟨hn,fun x hx => ?_⟩
    rcases hm x hx with hx | hx
    · rcases mem_of_mem_set hx with hx | rfl
      · exact .inl hx
      · simp
    · exact .inr (List.mem_cons_of_mem u hx)

theorem nodup_ofPairs (pairs : Members) : (keys (ofPairs pairs)).Nodup :=
  (setAll_spec nodup_keys_nil pairs).1

theorem mem_of_mem_ofPairs {pairs : Members} {x : String × Value} (h : x ∈ ofPairs pairs) :
    x ∈ pairs :=
  ((setAll_spec nodup_keys_nil pairs).2 x h).resolve_left List.not_mem_nil

theorem setAll_of_nodup (ms ns : Members) (h : (keys (ms ++ ns)).Nodup) :
    setAll ms ns = ms ++ ns := by
  induction ns generalizing ms with
  | nil => simp [setAll]
  | cons n ns ih =>
    obtain ⟨k,w⟩ := n
    have hk : k ∉ keys ms := by
      rw [keys_append] at h
      exact fun hm => (List.nodup_append.mp h).2.2 k hm k (by simp [keys]) rfl
    have := ih (ms ++ [(k,w)]) (by simpa using h)
    rw [List.append_assoc,List.singleton_append] at this
    rw [← this,setAll,setAll,List.foldl_cons,set_of_notMem hk]

/-- Members with names of their own stay as they are. -/
theorem ofPairs_of_nodup (h : (keys ms).Nodup) : ofPairs ms = ms :=
  setAll_of_nodup [] ms h

end ChatMarkup.Members
