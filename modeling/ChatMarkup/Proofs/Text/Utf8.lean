import ChatMarkup.Text.Utf8
import Mathlib.Data.Nat.Notation
import Mathlib.Tactic.SplitIfs

/-!
# Encoded text is read back

The bytes of a character take the decoder from between two characters to between two characters,
and give this character. So the bytes of a text give the text, and they begin with a byte order mark
only if the text does.
-/
namespace ChatMarkup.Text
variable {m bits more low high : ℕ}

/-! ## Single bytes -/

theorem toNat_ofNat_of_lt {n : ℕ} (h : n < 0x100) : (UInt8.ofNat n).toNat = n := by
  simp [Nat.mod_eq_of_lt h]

theorem decodeFrom_single {n : ℕ} (h : n < 0x80) (rest : List UInt8) :
    decodeFrom none (UInt8.ofNat n :: rest) = Char.ofNat n :: decodeFrom none rest := by
  have hl : lead? n = some ⟨n,0,0x80,0xBF⟩ := if_pos h
  simp [decodeFrom,Nat.mod_eq_of_lt (show n < 256 by omega),hl]

theorem decodeFrom_lead {n : ℕ} (hn : n < 0x100) (hl : lead? n = some ⟨bits,more + 1,low,high⟩)
    (rest : List UInt8) :
    decodeFrom none (UInt8.ofNat n :: rest) = decodeFrom (some ⟨bits,more + 1,low,high⟩) rest := by
  simp [decodeFrom,Nat.mod_eq_of_lt hn,hl]

/-- A byte in the middle of a character adds its bits. -/
theorem decodeFrom_middle (hm : m < 64) (hl : low ≤ 0x80 + m) (hh : 0x80 + m ≤ high)
    (rest : List UInt8) :
    decodeFrom (some ⟨bits,more + 2,low,high⟩) (UInt8.ofNat (0x80 + m) :: rest) =
      decodeFrom (some ⟨bits * 64 + m,more + 1,0x80,0xBF⟩) rest := by
  have hn := toNat_ofNat_of_lt (show 0x80 + m < 0x100 by omega)
  rw [decodeFrom,hn]
  simp [hl,hh]

/-- The last byte of a character completes it. -/
theorem decodeFrom_last (hm : m < 64) (hl : low ≤ 0x80 + m) (hh : 0x80 + m ≤ high)
    (rest : List UInt8) :
    decodeFrom (some ⟨bits,1,low,high⟩) (UInt8.ofNat (0x80 + m) :: rest) =
      Char.ofNat (bits * 64 + m) :: decodeFrom none rest := by
  have hn := toNat_ofNat_of_lt (show 0x80 + m < 0x100 by omega)
  rw [decodeFrom,hn]
  simp [hl,hh]

/-! ## First bytes -/

theorem lead?_of_two : ∀ q < 32, 2 ≤ q → lead? (0xC0 + q) = some ⟨q,1,0x80,0xBF⟩ := by decide

theorem lead?_of_three : ∀ q < 16, lead? (0xE0 + q) =
    some ⟨q,2,if q = 0 then 0xA0 else 0x80,if q = 13 then 0x9F else 0xBF⟩ := by decide

theorem lead?_of_four : ∀ q < 5, lead? (0xF0 + q) =
    some ⟨q,3,if q = 0 then 0x90 else 0x80,if q = 4 then 0x8F else 0xBF⟩ := by decide

/-! ## Characters and texts -/

theorem toNat_valid (c : Char) : c.toNat < 0xD800 ∨ 0xDFFF < c.toNat ∧ c.toNat < 0x110000 :=
  c.valid

theorem decodeFrom_encodeChar (c : Char) (rest : List UInt8) :
    decodeFrom none (encodeChar c ++ rest) = c :: decodeFrom none rest := by
  have hv := toNat_valid c
  have hc := Char.ofNat_toNat c
  unfold encodeChar
  dsimp only
  generalize c.toNat = n at hv hc
  split_ifs with h₁ h₂ h₃
  · rw [List.singleton_append,decodeFrom_single h₁,hc]
  · have hl := lead?_of_two (n / 64) (by omega) (by omega)
    have he : n / 64 * 64 + n % 64 = n := by omega
    rw [List.cons_append,List.singleton_append,decodeFrom_lead (by omega) hl,
      decodeFrom_last (by omega) (by omega) (by omega),he,hc]
  · have hl := lead?_of_three (n / 4096) (by omega)
    have he : (n / 4096 * 64 + n / 64 % 64) * 64 + n % 64 = n := by omega
    rw [List.cons_append,List.cons_append,List.singleton_append,decodeFrom_lead (by omega) hl,
      decodeFrom_middle (by omega) (by split_ifs <;> omega) (by split_ifs <;> omega),
      decodeFrom_last (by omega) (by omega) (by omega),he,hc]
  · have hl := lead?_of_four (n / 262144) (by omega)
    have he : ((n / 262144 * 64 + n / 4096 % 64) * 64 + n / 64 % 64) * 64 + n % 64 = n := by omega
    rw [List.cons_append,List.cons_append,List.cons_append,List.singleton_append,
      decodeFrom_lead (by omega) hl,
      decodeFrom_middle (by omega) (by split_ifs <;> omega) (by split_ifs <;> omega),
      decodeFrom_middle (by omega) (by omega) (by omega),
      decodeFrom_last (by omega) (by omega) (by omega),he,hc]

theorem decodeUtf8_encodeUtf8 (s : List Char) : decodeUtf8 (encodeUtf8 s) = s := by
  induction s with
  | nil => rfl
  | cons c s ih =>
    rw [encodeUtf8,List.flatMap_cons,decodeUtf8,decodeFrom_encodeChar]
    exact congrArg (c :: ·) ih

/-- Only a text that begins with a byte order mark loses it. -/
theorem decodeDocument_encodeUtf8 {s : List Char} (h : s.head? ≠ some '\uFEFF') :
    decodeDocument (encodeUtf8 s) = s := by
  have hd := decodeUtf8_encodeUtf8 s
  rw [decodeDocument]
  generalize encodeUtf8 s = bytes at hd
  unfold dropByteOrderMark
  split
  · next rest =>
    have hm : encodeChar '\uFEFF' = [0xEF,0xBB,0xBF] := by decide
    have hf := decodeFrom_encodeChar '\uFEFF' rest
    rw [hm] at hf
    rw [← hd] at h
    exact absurd (congrArg List.head? hf) h
  · exact hd

end ChatMarkup.Text
