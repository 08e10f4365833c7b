import ChatMarkup.Data.Json.Printer
import ChatMarkup.Data.Json.Reader
import Mathlib.Tactic.SplitIfs

/-!
# Quoted texts

What is written in quotes is read as the text that was written, whatever follows the quotes. Each
character is written as one that the reader takes for itself, or as an escape that it takes for that
character; half a pair of surrogates is never among them, since the escapes by number are for
controls alone.
-/
namespace ChatMarkup.Json
open Text

/-- Where a reader stands at a text with something behind it, it reads a value from the text and
then stands behind it. -/
def Reads {α : Type} (read : Cursor → Except ReadError (α × Cursor)) (s : List Char) (a : α)
    (rest : List Char) : Prop :=
  ∀ p, ∃ q, read ⟨s ++ rest,p⟩ = .ok (a,⟨rest,q⟩)

theorem skip_append (s rest : List Char) (p : Nat) :
    (Cursor.mk (s ++ rest) p).skip s.length = ⟨rest,p+s.length⟩ := by
  simp [Cursor.skip]

theorem toList_hexText (width n : Nat) :
    (hexText width n).toList =
      List.replicate (width-(Nat.toDigits 16 n).length) '0' ++ Nat.toDigits 16 n := by
  simp [hexText]

/-- The number of a control is written in four digits, which are read as that number. -/
theorem hexUnit?_control : ∀ n < 32,
    (List.replicate (4-(Nat.toDigits 16 n).length) '0' ++ Nat.toDigits 16 n).length = 4 ∧
      hexUnit? (List.replicate (4-(Nat.toDigits 16 n).length) '0' ++ Nat.toDigits 16 n) = some n ∧
      isHighSurrogate n = false ∧ unitChar n = Char.ofNat n := by
  decide

theorem hexUnit?_append {s : List Char} (h : s.length = 4) (more : List Char) :
    hexUnit? (s ++ more) = hexUnit? s := by
  have ht : (s ++ more).take 4 = s.take 4 := by
    rw [← h,List.take_left,List.take_length]
  unfold hexUnit?
  rw [ht]

theorem unicodeEscape_control {n : Nat} (hn : n < 32) {more : List Char} (hm : more ≠ [])
    (p : Nat) :
    unicodeEscape ⟨(hexText 4 n).toList ++ more,p⟩ = .ok (Char.ofNat n,4) := by
  obtain ⟨hl,hu,hs,hc⟩ := hexUnit?_control n hn
  rw [toList_hexText]
  generalize List.replicate (4-(Nat.toDigits 16 n).length) '0' ++ Nat.toDigits 16 n = s at hl hu
  have hd : (s ++ more).drop 4 = more := by rw [← hl,List.drop_left]
  have he : more.isEmpty = false := by simpa using hm
  unfold unicodeEscape
  simp only [hd,he,hexUnit?_append hl,hu,hs,hc,Bool.false_eq_true,if_false,Bool.false_and]
  split <;> rfl

section
variable (fuel start : Nat) (read more : List Char) (p : Nat)

theorem stringFrom_simple {e c : Char} (hs : simpleEscape? e = some c) (hu : e ≠ 'u') :
    stringFrom (fuel+1) start read ⟨'\\' :: e :: more,p⟩ =
      stringFrom fuel start (c :: read) ⟨more,p+2⟩ := by
  simp [stringFrom,hs,Cursor.skip]

theorem stringFrom_plain {c : Char} (hq : c ≠ '"') (hb : c ≠ '\\') (hc : ¬ c.toNat < 32) :
    stringFrom (fuel+1) start read ⟨c :: more,p⟩ =
      stringFrom fuel start (c :: read) ⟨more,p+1⟩ := by
  simp [stringFrom,hc,Cursor.skip]

theorem stringFrom_numbered {n : Nat} (hn : n < 32) (hm : more ≠ []) :
    stringFrom (fuel+1) start read ⟨'\\' :: 'u' :: ((hexText 4 n).toList ++ more),p⟩ =
      stringFrom fuel start (Char.ofNat n :: read) ⟨more,p+6⟩ := by
  have hu := unicodeEscape_control hn hm (p+2)
  have hl : (hexText 4 n).toList.length = 4 := by
    rw [toList_hexText]
    exact (hexUnit?_control n hn).1
  have hd : ((hexText 4 n).toList ++ more).drop 4 = more := List.drop_left' hl
  simp [stringFrom,Cursor.skip,hu,hd,bind,Except.bind]

/-- A written character is read back as that character. -/
theorem stringFrom_escapedChar (c : Char) (hm : more ≠ []) :
    ∃ q, stringFrom (fuel+1) start read ⟨escapedChar c ++ more,p⟩ =
      stringFrom fuel start (c :: read) ⟨more,q⟩ := by
  unfold escapedChar
  split
  · exact ⟨_,stringFrom_simple fuel start read more p rfl (by decide)⟩
  · exact ⟨_,stringFrom_simple fuel start read more p rfl (by decide)⟩
  · exact ⟨_,stringFrom_simple fuel start read more p rfl (by decide)⟩
  · exact ⟨_,stringFrom_simple fuel start read more p rfl (by decide)⟩
  · exact ⟨_,stringFrom_simple fuel start read more p rfl (by decide)⟩
  · next hq hb hn hr ht =>
    have hc : Char.ofNat c.toNat = c := Char.ofNat_toNat c
    split_ifs with h₁ h₂ h₃
    · have he : c = Char.ofNat 8 := by rw [← hc,beq_iff_eq.mp h₁]
      exact ⟨_,stringFrom_simple fuel start read more p (he ▸ rfl) (by decide)⟩
    · have he : c = Char.ofNat 12 := by rw [← hc,beq_iff_eq.mp h₂]
      exact ⟨_,stringFrom_simple fuel start read more p (he ▸ rfl) (by decide)⟩
    · have h := stringFrom_numbered fuel start read more p h₃ hm
      rw [hc] at h
      exact ⟨_,by simpa using h⟩
    · exact ⟨_,stringFrom_plain fuel start read more p hq hb h₃⟩

end

/-- Every written character takes a character at least. -/
theorem escapedChar_ne_nil (c : Char) : escapedChar c ≠ [] := by
  unfold escapedChar
  split
  case h_6 => split_ifs <;> simp
  all_goals simp

theorem length_le_escaped (s : List Char) : s.length ≤ (s.flatMap escapedChar).length := by
  induction s with
  | nil => simp
  | cons c s ih =>
    have := List.length_pos_iff.mpr (escapedChar_ne_nil c)
    simp only [List.flatMap_cons,List.length_append,List.length_cons]
    omega

theorem stringFrom_escaped {fuel : Nat} (start : Nat) (read s rest : List Char) (p : Nat)
    (hf : s.length < fuel) :
    ∃ q, stringFrom fuel start read ⟨s.flatMap escapedChar ++ '"' :: rest,p⟩ =
      .ok (String.ofList (read.reverse ++ s),⟨rest,q⟩) := by
  induction s generalizing fuel read p with
  | nil =>
    obtain ⟨fuel,rfl⟩ := Nat.exists_eq_add_one_of_ne_zero (Nat.ne_zero_of_lt hf)
    exact ⟨p+1,by simp [stringFrom,Cursor.skip]⟩
  | cons c s ih =>
    obtain ⟨fuel,rfl⟩ := Nat.exists_eq_add_one_of_ne_zero (Nat.ne_zero_of_lt hf)
    obtain ⟨q,hq⟩ := stringFrom_escapedChar fuel start read
      (s.flatMap escapedChar ++ '"' :: rest) p c (by simp)
    obtain ⟨r,hr⟩ := ih (c :: read) q (by simpa using hf)
    refine ⟨r,?_⟩
    rw [List.flatMap_cons,List.append_assoc,hq,hr]
    simp

theorem toList_quote (s : String) :
    (quote s).toList = '"' :: (s.toList.flatMap escapedChar ++ ['"']) := by
  simp [quote]

/-- A quoted text is read as the text that was quoted. -/
theorem reads_quote {fuel : Nat} {s : String} (rest : List Char)
    (hf : (quote s).toList.length ≤ fuel) : Reads (string fuel) (quote s).toList s rest := by
  intro p
  have hl := length_le_escaped s.toList
  rw [toList_quote] at hf ⊢
  simp only [List.length_cons,List.length_append,List.length_nil] at hf
  obtain ⟨q,hq⟩ := stringFrom_escaped p [] s.toList rest (p+1)
    (by omega : s.toList.length < fuel)
  refine ⟨q,?_⟩
  simpa [string,Cursor.skip] using hq

end ChatMarkup.Json
