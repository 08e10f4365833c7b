import ChatMarkup.Proofs.Data.Json.RoundTrip
import ChatMarkup.Proofs.Data.Outcomes
import ChatMarkup.Proofs.Number.Limit

/-!
# What is read can be written

Every value that is read from a text has a text of its own: its numbers were rounded to their one
form and are not too long, and its objects name each member once. It follows that writing a value
and reading it back loses nothing of what reading gives, even where many texts denote the same
value.
-/
namespace ChatMarkup.Json
open Text

theorem writable_namedValues : ∀ w ∈ namedValues, Writable w.2 := by
  simp only [namedValues,List.forall_mem_cons,List.not_mem_nil,false_implies,implies_true,and_true]
  exact ⟨.null,.bool true,.bool false,.float trivial,.float trivial,.float trivial⟩

/-- A number is not too long if it was read from few enough digits. -/
theorem isLong_digitsValue {s : List Char} (h : s.length ≤ Number.maxDigits) :
    Number.isLong (digitsValue s) = false := by
  refine Number.isLong_ofDigits (fun d hd => ?_) ((List.length_filterMap_le asciiDigit? s).trans h)
  obtain ⟨c,-,hc⟩ := List.mem_filterMap.mp hd
  exact lt_of_asciiDigit? hc

theorem writable_value {p : NumberParts} (h : p.isLong = false) : Writable p.value := by
  unfold NumberParts.value
  split
  · next hi =>
    have hl : p.whole.length ≤ Number.maxDigits := by simpa [NumberParts.isLong,hi] using h
    refine .int ?_
    split
    · exact (Number.isLong_neg _).trans (isLong_digitsValue hl)
    · exact isLong_digitsValue hl
  · exact .float (Double.isCanonical_ofDecimal _ _ _)

theorem writable_atom {c d : Cursor} {v : Value} (h : atom c = .ok (v,d)) : Writable v := by
  unfold atom at h
  split at h
  · next word w hf =>
    cases h
    exact writable_namedValues _ (List.mem_of_find?_eq_some hf)
  · split at h
    · split_ifs at h with hl
      cases h
      exact writable_value (by simpa using hl)
    · cases h

/-- What is read within a bound can be written: a value, the items of a list, and the members of an
object. -/
structure ReadsWritable (fuel : ℕ) : Prop where
  value {c d : Cursor} {v : Value} : valueAt fuel c = .ok (v,d) → Writable v
  items {c d : Cursor} {vs : List Value} : itemsAt fuel c = .ok (vs,d) → ∀ v ∈ vs, Writable v
  members {c d : Cursor} {ms : Members} : membersAt fuel c = .ok (ms,d) → ∀ m ∈ ms, Writable m.2

section
variable {fuel : ℕ} {c d : Cursor}

theorem ReadsWritable.value_succ (h : ReadsWritable fuel) {v : Value}
    (hv : valueAt (fuel+1) c = .ok (v,d)) : Writable v := by
  rw [valueAt] at hv
  split at hv
  · obtain ⟨⟨s,e⟩,-,hv⟩ := bind_eq_ok.mp hv
    cases hv
    exact .text s
  · dsimp only at hv
    split at hv
    · cases hv
      exact .list (by simp)
    · obtain ⟨⟨items,e⟩,hi,hv⟩ := bind_eq_ok.mp hv
      cases hv
      exact .list (h.items hi)
  · dsimp only at hv
    split at hv
    · cases hv
      exact .object List.nodup_nil (by simp)
    · obtain ⟨⟨members,e⟩,hm,hv⟩ := bind_eq_ok.mp hv
      cases hv
      exact .object (Members.nodup_ofPairs members) fun m hx =>
        h.members hm m (Members.mem_of_mem_ofPairs hx)
  · exact writable_atom hv

theorem ReadsWritable.items_succ (h : ReadsWritable fuel) {vs : List Value}
    (hi : itemsAt (fuel+1) c = .ok (vs,d)) : ∀ v ∈ vs, Writable v := by
  rw [itemsAt] at hi
  obtain ⟨⟨v,e⟩,hv,hi⟩ := bind_eq_ok.mp hi
  have hw := h.value hv
  dsimp only at hi
  split at hi
  · cases hi
    simpa using hw
  · obtain ⟨⟨more,f⟩,hm,hi⟩ := bind_eq_ok.mp hi
    cases hi
    exact List.forall_mem_cons.mpr ⟨hw,h.items hm⟩
  · cases hi

theorem ReadsWritable.members_succ (h : ReadsWritable fuel) {ms : Members}
    (hm : membersAt (fuel+1) c = .ok (ms,d)) : ∀ m ∈ ms, Writable m.2 := by
  rw [membersAt] at hm
  split at hm
  · obtain ⟨⟨key,e⟩,-,hm⟩ := bind_eq_ok.mp hm
    dsimp only at hm
    split at hm
    · obtain ⟨⟨v,f⟩,hv,hm⟩ := bind_eq_ok.mp hm
      have hw := h.value hv
      dsimp only at hm
      split at hm
      · cases hm
        simpa using hw
      · obtain ⟨⟨more,g⟩,hr,hm⟩ := bind_eq_ok.mp hm
        cases hm
        exact List.forall_mem_cons.mpr ⟨hw,h.members hr⟩
      · cases hm
    · cases hm
  · cases hm

end

theorem readsWritable (fuel : ℕ) : ReadsWritable fuel := by
  induction fuel with
  | zero => exact ⟨by simp [valueAt,Cursor.fail],by simp [itemsAt,Cursor.fail],
      by simp [membersAt,Cursor.fail]⟩
  | succ fuel ih => exact ⟨ih.value_succ,ih.items_succ,ih.members_succ⟩

/-- Every value that a text denotes can be written. -/
theorem writable_of_read {text : String} {v : Value} (h : read text = .ok v) : Writable v := by
  rw [read,readChars] at h
  split at h
  · cases h
  · obtain ⟨⟨w,c⟩,hw,h⟩ := bind_eq_ok.mp h
    dsimp only at h
    split at h
    · cases h
      exact (readsWritable _).value hw
    · cases h

end ChatMarkup.Json
