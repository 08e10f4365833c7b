import ChatMarkup.Number.Integer
import Mathlib.Data.List.Induction
import Mathlib.Data.Nat.Digits.Defs
import Mathlib.Tactic.SplitIfs

/-!
# What is read is not too long

Whether an integer is too long to be written is a matter of its distance from zero alone. A text
with few enough digits denotes a number below the limit, whatever script its digits are of, so an
integer that was read can also be written.
-/
namespace ChatMarkup.Text

theorem lt_of_asciiDigit? {c : Char} {d : ℕ} (h : asciiDigit? c = some d) : d < 10 := by
  unfold asciiDigit? at h
  split_ifs at h with hc
  cases h
  simp only [Char.isDigit,Bool.and_eq_true,decide_eq_true_eq,UInt32.le_iff_toNat_le] at hc
  have : c.toNat ≤ 57 := hc.2
  omega

theorem lt_of_digitValue? {c : Char} {d : ℕ} (h : digitValue? c = some d) : d < 10 := by
  obtain ⟨_,-,rfl⟩ := Option.map_eq_some_iff.mp h
  exact Nat.mod_lt _ (by decide)

/-- The most significant digit stands first here, and last in the library's reading. -/
theorem ofDigits_eq (base : ℕ) (digits : List ℕ) :
    ofDigits base digits = Nat.ofDigits base digits.reverse := by
  induction digits using List.reverseRecOn with
  | nil => rfl
  | append_singleton digits d ih =>
    rw [List.reverse_append,List.reverse_singleton,List.singleton_append,Nat.ofDigits_cons,← ih,
      ofDigits,List.foldl_append]
    exact Nat.add_comm _ _

theorem ofDigits_lt {digits : List ℕ} (h : ∀ d ∈ digits, d < 10) :
    ofDigits 10 digits < 10^digits.length := by
  rw [ofDigits_eq,← List.length_reverse]
  exact Nat.ofDigits_lt_base_pow_length (by decide) fun d hd => h d (List.mem_reverse.mp hd)

end ChatMarkup.Text

namespace ChatMarkup.Number
open Text

theorem isLong_iff (n : ℤ) : isLong n = true ↔ 10^maxDigits ≤ n.natAbs := by
  have hd := Nat.length_toDigits_le_iff (n := n.natAbs) (b := 10) (k := maxDigits)
    (by decide) (by decide)
  rw [isLong,decide_eq_true_iff]
  omega

@[simp] theorem isLong_neg (n : ℤ) : isLong (-n) = isLong n := by
  rw [isLong,Int.natAbs_neg,isLong]

/-- A number is not too long if it was read from few enough digits. -/
theorem isLong_ofDigits {digits : List ℕ} (h : ∀ d ∈ digits, d < 10)
    (hl : digits.length ≤ maxDigits) : isLong (ofDigits 10 digits : ℕ) = false := by
  rw [← Bool.not_eq_true,isLong_iff,Int.natAbs_natCast,Nat.not_le]
  exact (ofDigits_lt h).trans_le (Nat.pow_le_pow_right (by decide) hl)

theorem lt_of_groupedDigits? {s : List Char} {digits : List ℕ}
    (h : groupedDigits? s = some digits) : ∀ d ∈ digits, d < 10 := by
  fun_induction groupedDigits? s generalizing digits with
  | case1 => cases h
  | case2 c =>
    obtain ⟨d,hd,rfl⟩ := Option.map_eq_some_iff.mp h
    simpa using lt_of_digitValue? hd
  | case3 c rest ih | case4 c rest _ _ ih =>
    obtain ⟨d,hd,hr⟩ := Option.bind_eq_some_iff.mp h
    obtain ⟨ds,hds,rfl⟩ := Option.map_eq_some_iff.mp hr
    exact List.forall_mem_cons.mpr ⟨lt_of_digitValue? hd,ih hds⟩

theorem isLong_of_magnitude? {s : List Char} {m : ℕ} (h : magnitude? s = some m) :
    isLong m = false := by
  obtain ⟨digits,hd,hm⟩ := Option.bind_eq_some_iff.mp h
  split_ifs at hm with hl
  cases hm
  exact isLong_ofDigits (lt_of_groupedDigits? hd) hl

/-- Every integer that a text gives can be written. -/
theorem isLong_of_integer? {s : List Char} {n : ℤ} (h : integer? s = some n) :
    isLong n = false := by
  unfold integer? at h
  split at h <;> obtain ⟨m,hm,rfl⟩ := Option.map_eq_some_iff.mp h
  · rw [isLong_neg]
    exact isLong_of_magnitude? hm
  · exact isLong_of_magnitude? hm
  · exact isLong_of_magnitude? hm

end ChatMarkup.Number
