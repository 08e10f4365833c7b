import ChatMarkup.Proofs.Data.Json.Strings
import ChatMarkup.Proofs.Number.Shortest

/-!
# Written numbers

A number is written as digits, of which the first is no zero unless it is alone, and then perhaps a
fraction and an exponent. The reader takes these parts apart again as long as what follows could not
be more of them. An integer is read from its digits, and a binary number from its shortest ones.
-/
namespace ChatMarkup.Json
open Text

/-- What follows a number is none of its parts. -/
def EndsNumber (rest : List Char) : Prop :=
  ∀ c ∈ rest.head?, c.isDigit = false ∧ c ≠ '.' ∧ c ≠ 'e' ∧ c ≠ 'E'

structure NumberText where
  whole : List Char
  fraction : List Char := []
  /-- The sign of the exponent and its digits. -/
  exponent : Option (Bool × List Char) := none

def signText (negative : Bool) : List Char := if negative then ['-'] else []

namespace NumberText

def fractionText (n : NumberText) : List Char :=
  if n.fraction.isEmpty then [] else '.' :: n.fraction

def exponentText (n : NumberText) : List Char :=
  match n.exponent with
  | none => []
  | some (negative,digits) => 'e' :: (if negative then '-' else '+') :: digits

def text (n : NumberText) : List Char := n.whole ++ (n.fractionText ++ n.exponentText)

def exponent? (n : NumberText) : Option ℤ :=
  n.exponent.map fun x => if x.1 then -(digitsValue x.2 : ℤ) else digitsValue x.2

def parts (n : NumberText) (negative : Bool) : NumberParts :=
  ⟨negative,n.whole,n.fraction,n.exponent?,(signText negative ++ n.text).length⟩

structure Valid (n : NumberText) : Prop where
  whole_ne : n.whole ≠ []
  whole : ∀ c ∈ n.whole, c.isDigit
  zero : n.whole.head? = some '0' → n.whole = ['0']
  fraction : ∀ c ∈ n.fraction, c.isDigit
  exponent_ne : ∀ x ∈ n.exponent, x.2 ≠ []
  exponent : ∀ x ∈ n.exponent, ∀ c ∈ x.2, c.isDigit

end NumberText

def signed (s : List Char) : Bool × List Char :=
  match s with
  | '-' :: more => (true,more)
  | _ => (false,s)

/-- The digits before a point. A zero stands alone. -/
def wholeAt (s : List Char) : List Char :=
  match s with
  | '0' :: _ => ['0']
  | _ => s.takeWhile Char.isDigit

def fractionAt : List Char → List Char
  | '.' :: more => more.takeWhile Char.isDigit
  | _ => []

def unsignedParts? (negative : Bool) (s : List Char) : Option NumberParts :=
  if (wholeAt s).isEmpty then none
  else
    let after := s.drop (wholeAt s).length
    let pointed := if (fractionAt after).isEmpty then 0 else (fractionAt after).length+1
    let exponent := exponentAt? (after.drop pointed)
    some ⟨negative,wholeAt s,fractionAt after,exponent.map (·.1),
      (if negative then 1 else 0)+(wholeAt s).length+pointed+(exponent.map (·.2)).getD 0⟩

theorem numberParts?_eq (s : List Char) :
    numberParts? s = unsignedParts? (signed s).1 (signed s).2 := rfl

theorem takeWhile_isDigit {s rest : List Char} (hs : ∀ c ∈ s, c.isDigit)
    (hr : ∀ c ∈ rest.head?, c.isDigit = false) : (s ++ rest).takeWhile Char.isDigit = s := by
  rw [List.takeWhile_append_of_pos hs]
  cases rest with
  | nil => simp
  | cons c rest =>
    have := hr c (by simp)
    simp [this]

theorem exponentAt?_ends {rest : List Char} (h : EndsNumber rest) : exponentAt? rest = none := by
  cases rest with
  | nil => rfl
  | cons c rest =>
    obtain ⟨-,-,he,hE⟩ := h c (by simp)
    simp [exponentAt?,he,hE]

section
variable {n : NumberText} {rest : List Char}

theorem exponentAt?_text (hn : n.Valid) (hr : EndsNumber rest) :
    exponentAt? (n.exponentText ++ rest) =
      n.exponent?.map fun x => (x,n.exponentText.length) := by
  unfold NumberText.exponentText NumberText.exponent?
  cases hx : n.exponent with
  | none => simpa using exponentAt?_ends hr
  | some x =>
    obtain ⟨negative,digits⟩ := x
    have hne := hn.exponent_ne _ hx
    have ht := takeWhile_isDigit (hn.exponent _ hx) fun c hc => (hr c hc).1
    cases negative <;> simp [exponentAt?,ht,hne] <;> omega

theorem head?_exponentText (hr : EndsNumber rest) :
    ∀ c ∈ (n.exponentText ++ rest).head?, c.isDigit = false ∧ c ≠ '.' := by
  intro c hc
  unfold NumberText.exponentText at hc
  split at hc
  · exact ⟨(hr c hc).1,(hr c hc).2.1⟩
  · obtain rfl : c = 'e' := by simpa using hc.symm
    decide

theorem head?_fractionText (hr : EndsNumber rest) :
    ∀ c ∈ (n.fractionText ++ (n.exponentText ++ rest)).head?, c.isDigit = false := by
  intro c hc
  unfold NumberText.fractionText at hc
  split at hc
  · exact (head?_exponentText hr c hc).1
  · obtain rfl : c = '.' := by simpa using hc.symm
    decide

theorem signed_text (hn : n.Valid) (negative : Bool) :
    signed (signText negative ++ (n.text ++ rest)) = (negative,n.text ++ rest) := by
  cases negative with
  | true => rfl
  | false =>
    obtain ⟨c,more,hc⟩ := List.exists_cons_of_ne_nil hn.whole_ne
    have hd := hn.whole c (by simp [hc])
    simp only [NumberText.text,hc]
    unfold signed
    split
    · next h =>
      obtain rfl : c = '-' := by simpa using (List.cons.inj h).1
      exact absurd hd (by decide)
    · rfl

theorem wholeAt_text (hn : n.Valid) {after : List Char}
    (ha : ∀ c ∈ after.head?, c.isDigit = false) : wholeAt (n.whole ++ after) = n.whole := by
  unfold wholeAt
  split
  · next h =>
    refine (hn.zero ?_).symm
    obtain ⟨c,more,hc⟩ := List.exists_cons_of_ne_nil hn.whole_ne
    rw [hc] at h ⊢
    simpa using (List.cons.inj h).1
  · exact takeWhile_isDigit hn.whole ha

theorem fractionAt_text (hn : n.Valid) (hr : EndsNumber rest) :
    fractionAt (n.fractionText ++ (n.exponentText ++ rest)) = n.fraction := by
  have he := head?_exponentText (n := n) hr
  unfold NumberText.fractionText
  cases hf : n.fraction with
  | nil =>
    simp only [List.isEmpty_nil,if_true,List.nil_append]
    unfold fractionAt
    split
    · next h =>
      rw [h] at he
      exact absurd rfl (he '.' (by simp)).2
    · rfl
  | cons c more =>
    have := takeWhile_isDigit hn.fraction fun c hc => (he c hc).1
    rw [hf] at this
    simpa [fractionAt] using this

/-- The parts of a written number are found again. -/
theorem numberParts?_text (hn : n.Valid) (negative : Bool) (hr : EndsNumber rest) :
    numberParts? (signText negative ++ (n.text ++ rest)) = some (n.parts negative) := by
  have hbody : n.text ++ rest = n.whole ++ (n.fractionText ++ (n.exponentText ++ rest)) := by
    simp [NumberText.text]
  have hempty : n.whole.isEmpty = false := by simpa using hn.whole_ne
  have hpointed : (if n.fraction.isEmpty then 0 else n.fraction.length+1) =
      n.fractionText.length := by
    unfold NumberText.fractionText
    split <;> simp
  have hexponent : ((n.exponent?.map fun x => (x,n.exponentText.length)).map (·.2)).getD 0 =
      n.exponentText.length := by
    unfold NumberText.exponent? NumberText.exponentText
    split <;> simp [*]
  rw [numberParts?_eq,signed_text hn,hbody]
  simp only [unsignedParts?,wholeAt_text hn (head?_fractionText hr),hempty,List.drop_left,
    fractionAt_text hn hr,hpointed,exponentAt?_text hn hr,hexponent]
  cases negative <;> simp [NumberText.parts,NumberText.text,signText,Function.comp_def] <;> omega

/-- A number begins with a digit or a sign and a digit. -/
theorem text_cons (hn : n.Valid) (negative : Bool) : ∃ c more, c.isDigit = true ∧
    signText negative ++ n.text = signText negative ++ (c :: more) := by
  obtain ⟨c,more,hc⟩ := List.exists_cons_of_ne_nil hn.whole_ne
  exact ⟨c,_,hn.whole c (by simp [hc]),by rw [NumberText.text,hc,List.cons_append]⟩

theorem ne_of_isDigit {c x : Char} (hc : c.isDigit = true) (hx : x.isDigit = false) : x ≠ c := by
  rintro rfl
  exact absurd hc (by simp [hx])

/-- No word for a value begins so. -/
theorem find?_namedValues {c : Char} (hc : c.isDigit = true) (negative : Bool) (more : List Char) :
    (namedValues.find? fun w => w.1.isPrefixOf (signText negative ++ c :: more)) = none := by
  have hI := ne_of_isDigit (x := 'I') hc rfl
  have hN := ne_of_isDigit (x := 'N') hc rfl
  have hn := ne_of_isDigit (x := 'n') hc rfl
  have ht := ne_of_isDigit (x := 't') hc rfl
  have hf := ne_of_isDigit (x := 'f') hc rfl
  have hm := ne_of_isDigit (x := '-') hc rfl
  cases negative <;> simp [namedValues,signText,hI,hN,hn,ht,hf,hm]

theorem valueAt_eq_atom {c : Char} (hc : c.isDigit = true) (fuel : ℕ) (negative : Bool)
    (more : List Char) (p : ℕ) : valueAt (fuel+1) ⟨signText negative ++ c :: more,p⟩ =
      atom ⟨signText negative ++ c :: more,p⟩ := by
  have hq := (ne_of_isDigit (x := '"') hc rfl).symm
  have hl := (ne_of_isDigit (x := '[') hc rfl).symm
  have ho := (ne_of_isDigit (x := '\x7b') hc rfl).symm
  cases negative <;> simp [valueAt,signText,hq,hl,ho]

/-- A written number is read as the value of its parts, unless it is too long. -/
theorem reads_number (fuel : ℕ) (hn : n.Valid) {negative : Bool}
    (hl : (n.parts negative).isLong = false) (hr : EndsNumber rest) :
    Reads (valueAt (fuel+1)) (signText negative ++ n.text) (n.parts negative).value rest := by
  intro p
  obtain ⟨c,more,hc,ht⟩ := text_cons hn negative
  have hp := numberParts?_text hn negative hr
  rw [← List.append_assoc] at hp
  have hs := skip_append (signText negative ++ n.text) rest p
  have hatom : atom ⟨signText negative ++ n.text ++ rest,p⟩ =
      .ok ((n.parts negative).value,⟨rest,p+(signText negative ++ n.text).length⟩) := by
    have hw := find?_namedValues hc negative (more ++ rest)
    rw [← List.cons_append,← List.append_assoc,← ht] at hw
    simp only [atom,hw,hp,hl,Bool.false_eq_true,if_false]
    exact congrArg (fun x => Except.ok ((n.parts negative).value,x)) hs
  refine ⟨_,Eq.trans ?_ hatom⟩
  rw [ht,List.append_assoc,List.cons_append,valueAt_eq_atom hc]

end

section Digits

theorem ofDigitChars_eq_foldl {s : List Char} (hs : ∀ c ∈ s, c.isDigit) (init : ℕ) :
    (s.filterMap asciiDigit?).foldl (fun n d => 10*n+d) init = Nat.ofDigitChars 10 s init := by
  induction s generalizing init with
  | nil => rfl
  | cons c s ih =>
    have hc : asciiDigit? c = some (c.toNat-48) := by simp [asciiDigit?,hs c (by simp)]
    simp only [List.filterMap_cons_some hc,List.foldl_cons,Nat.ofDigitChars_cons]
    exact ih (fun c hc => hs c (by simp [hc])) _

theorem digitsValue_eq {s : List Char} (hs : ∀ c ∈ s, c.isDigit) :
    digitsValue s = Nat.ofDigitChars 10 s 0 :=
  ofDigitChars_eq_foldl hs 0

theorem isDigit_toDigits (m : ℕ) : ∀ c ∈ Nat.toDigits 10 m, c.isDigit :=
  fun _ hc => Nat.isDigit_of_mem_toDigits (by norm_num) (by norm_num) hc

@[simp] theorem digitsValue_toDigits (m : ℕ) : digitsValue (Nat.toDigits 10 m) = m := by
  rw [digitsValue_eq (isDigit_toDigits m),Nat.ofDigitChars_ten_toDigits]

/-- Only zero is written with a zero in front. -/
theorem head?_toDigits {m : ℕ} (hm : 0 < m) : (Nat.toDigits 10 m).head? ≠ some '0' := by
  induction m using Nat.strongRecOn with
  | _ m ih =>
    rw [Nat.toDigits_eq_if (by norm_num)]
    split
    · simp [Nat.digitChar_eq_zero,hm.ne']
    · have hdiv : 0 < m/10 := by omega
      obtain ⟨c,more,hc⟩ := List.exists_cons_of_ne_nil (Nat.toDigits_ne_nil (n := m/10) (b := 10))
      have := ih (m/10) (by omega) hdiv
      rw [hc] at this ⊢
      simpa using this

end Digits

/-- The writing of an integer. -/
theorem valid_toDigits (m : ℕ) : NumberText.Valid ⟨Nat.toDigits 10 m,[],none⟩ where
  whole_ne := Nat.toDigits_ne_nil
  whole := isDigit_toDigits m
  zero h := by
    rcases Nat.eq_zero_or_pos m with rfl | hm
    · rfl
    · exact absurd h (head?_toDigits hm)
  fraction := by simp
  exponent_ne := by simp
  exponent := by simp

theorem toList_toString_int (n : ℤ) :
    (toString n).toList =
      signText (n < 0) ++ NumberText.text ⟨Nat.toDigits 10 n.natAbs,[],none⟩ := by
  rw [Int.toString_eq_repr,Int.repr_eq_if]
  rcases lt_or_ge n 0 with h | h
  · have : (-n).toNat = n.natAbs := by omega
    simp [signText,NumberText.text,NumberText.fractionText,NumberText.exponentText,h,not_le.mpr h,
      this]
  · have : n.toNat = n.natAbs := by omega
    simp [signText,NumberText.text,NumberText.fractionText,NumberText.exponentText,h,not_lt.mpr h,
      this]

/-- The text is a number that is not too long, and the reader makes the value of its parts. -/
def IsNumber (s : List Char) (v : Value) : Prop :=
  ∃ n negative, NumberText.Valid n ∧ s = signText negative ++ n.text ∧
    (n.parts negative).isLong = false ∧ (n.parts negative).value = v

theorem isNumber_int {n : ℤ} (h : Number.isLong n = false) :
    IsNumber (toString n).toList (.int n) := by
  refine ⟨_,_,valid_toDigits n.natAbs,toList_toString_int n,h,?_⟩
  simp only [NumberParts.value,NumberText.parts,NumberText.exponent?,digitsValue_toDigits,
    List.isEmpty_nil,Option.map_none,Option.isNone_none,Bool.and_self,if_true,
    decide_eq_true_eq,Value.int.injEq]
  split <;> omega

/-- The digits of an exponent, at least two of them. -/
def exponentDigits (m : ℕ) : List Char :=
  if (Nat.toDigits 10 m).length < 2 then '0' :: Nat.toDigits 10 m else Nat.toDigits 10 m

theorem exponentDigits_ne_nil (m : ℕ) : exponentDigits m ≠ [] := by
  unfold exponentDigits
  split
  · simp
  · exact Nat.toDigits_ne_nil

theorem isDigit_exponentDigits (m : ℕ) : ∀ c ∈ exponentDigits m, c.isDigit := by
  unfold exponentDigits
  split
  · exact List.forall_mem_cons.mpr ⟨rfl,isDigit_toDigits m⟩
  · exact isDigit_toDigits m

@[simp] theorem digitsValue_exponentDigits (m : ℕ) : digitsValue (exponentDigits m) = m := by
  rw [digitsValue_eq (isDigit_exponentDigits m)]
  unfold exponentDigits
  split
  · rw [Nat.ofDigitChars_cons]
    exact Nat.ofDigitChars_ten_toDigits
  · exact Nat.ofDigitChars_ten_toDigits

def laidOut (digits : List Char) (last : ℤ) : NumberText :=
  let first := last+digits.length-1
  if -4 ≤ first ∧ first < 16 then
    if 0 ≤ last then ⟨digits ++ List.replicate last.toNat '0',['0'],none⟩
    else if 0 ≤ first then ⟨digits.take (first+1).toNat,digits.drop (first+1).toNat,none⟩
    else ⟨['0'],List.replicate (-first-1).toNat '0' ++ digits,none⟩
  else ⟨digits.take 1,digits.drop 1,some (first < 0,exponentDigits first.natAbs)⟩

section LaidOut
variable {digits : List Char} {last : ℤ}

theorem text_laidOut (hne : digits ≠ []) :
    (laidOut digits last).text = Double.layOut digits last := by
  have hlen := List.length_pos_iff.mpr hne
  simp only [laidOut,Double.layOut,Bool.and_eq_true,decide_eq_true_eq]
  generalize hf : last+digits.length-1 = first
  by_cases hrange : -4 ≤ first ∧ first < 16
  · rw [if_pos hrange,if_pos hrange]
    split_ifs with hlast hfirst
    · simp [NumberText.text,NumberText.fractionText,NumberText.exponentText]
    · have : (digits.drop (first+1).toNat).isEmpty = false := by
        rw [← Bool.not_eq_true,List.isEmpty_iff,List.drop_eq_nil_iff]
        omega
      simp only [NumberText.text,NumberText.fractionText,NumberText.exponentText,this]
      simp
    · simp [NumberText.text,NumberText.fractionText,NumberText.exponentText,hne]
  · rw [if_neg hrange,if_neg hrange]
    obtain ⟨d,more,rfl⟩ := List.exists_cons_of_ne_nil hne
    cases more <;>
      simp [NumberText.text,NumberText.fractionText,NumberText.exponentText,exponentDigits]

theorem isDigit_replicate (n : ℕ) : ∀ c ∈ List.replicate n '0', c.isDigit := by
  intro c hc
  rw [List.eq_of_mem_replicate hc]
  rfl

theorem valid_laidOut (hne : digits ≠ []) (hd : ∀ c ∈ digits, c.isDigit)
    (hz : digits.head? ≠ some '0') : (laidOut digits last).Valid := by
  simp only [laidOut]
  generalize last+digits.length-1 = first
  split_ifs with hrange hlast hfirst
  · exact
      { whole_ne := by simp [hne]
        whole := List.forall_mem_append.mpr ⟨hd,isDigit_replicate _⟩
        zero := fun h => absurd h (by simpa [List.head?_append_of_ne_nil _ hne] using hz)
        fraction := by simp
        exponent_ne := by simp
        exponent := by simp }
  · have htake : (digits.take (first+1).toNat).head? = digits.head? := by
      rw [List.head?_take,if_neg (by omega)]
    exact
      { whole_ne := by simpa [hne] using by omega
        whole := fun c hc => hd c (List.mem_of_mem_take hc)
        zero := fun h => absurd (htake ▸ h) hz
        fraction := fun c hc => hd c (List.mem_of_mem_drop hc)
        exponent_ne := by simp
        exponent := by simp }
  · exact
      { whole_ne := by simp
        whole := by simp
        zero := fun _ => rfl
        fraction := List.forall_mem_append.mpr ⟨isDigit_replicate _,hd⟩
        exponent_ne := by simp
        exponent := by simp }
  · have htake : (digits.take 1).head? = digits.head? := by rw [List.head?_take,if_neg one_ne_zero]
    exact
      { whole_ne := by simp [hne]
        whole := fun c hc => hd c (List.mem_of_mem_take hc)
        zero := fun h => absurd (htake ▸ h) hz
        fraction := fun c hc => hd c (List.mem_of_mem_drop hc)
        exponent_ne := by simp [exponentDigits_ne_nil]
        exponent := by simpa using isDigit_exponentDigits _ }

/-- Whichever way the digits are laid out, the number has a fraction or an exponent. -/
theorem laidOut_isFloat (hne : digits ≠ []) :
    ((laidOut digits last).fraction.isEmpty && (laidOut digits last).exponent?.isNone) = false := by
  have hlen := List.length_pos_iff.mpr hne
  unfold laidOut
  dsimp only
  split_ifs with hrange hlast hfirst
  · rfl
  · rw [Bool.and_eq_false_iff,← Bool.not_eq_true,List.isEmpty_iff,List.drop_eq_nil_iff]
    left
    omega
  · simp [hne]
  · simp [NumberText.exponent?]

theorem digitsValue_zeros_right (hd : ∀ c ∈ digits, c.isDigit) (n : ℕ) :
    digitsValue (digits ++ List.replicate n '0') = 10^n*digitsValue digits := by
  rw [digitsValue_eq (List.forall_mem_append.mpr ⟨hd,isDigit_replicate n⟩),digitsValue_eq hd,
    Nat.ofDigitChars_append,Nat.ofDigitChars_replicate_zero]

theorem digitsValue_zeros_left (hd : ∀ c ∈ digits, c.isDigit) (n : ℕ) :
    digitsValue (List.replicate n '0' ++ digits) = digitsValue digits := by
  rw [digitsValue_eq (List.forall_mem_append.mpr ⟨isDigit_replicate n,hd⟩),digitsValue_eq hd,
    Nat.ofDigitChars_append,Nat.ofDigitChars_replicate_zero,Nat.mul_zero]

/-- The parts say the number that the digits say at their place. -/
theorem value_laidOut (last : ℤ) (hd : ∀ c ∈ digits, c.isDigit) (hne : digits ≠ []) :
    (digitsValue ((laidOut digits last).whole ++ (laidOut digits last).fraction) : ℚ)*
        10^((laidOut digits last).exponent?.getD 0-(laidOut digits last).fraction.length) =
      digitsValue digits*10^last := by
  have hlen := List.length_pos_iff.mpr hne
  simp only [laidOut]
  generalize hf : last+digits.length-1 = first
  split_ifs with hrange hlast hfirst
  · obtain ⟨n,rfl⟩ := Int.eq_ofNat_of_zero_le hlast
    have hzeros : digits ++ List.replicate n '0' ++ ['0'] =
        digits ++ List.replicate (n+1) '0' := by
      rw [List.append_assoc,← List.replicate_succ']
    simp only [Int.toNat_natCast,hzeros,digitsValue_zeros_right hd,NumberText.exponent?]
    simp
    ring
  · have hlast' : (0 : ℤ)-(digits.drop (first+1).toNat).length = last := by
      rw [List.length_drop]
      omega
    simp only [List.take_append_drop,NumberText.exponent?,Option.map_none,Option.getD_none,hlast']
  · have hlast' : (0 : ℤ)-(List.replicate (-first-1).toNat '0' ++ digits).length = last := by
      rw [List.length_append,List.length_replicate]
      omega
    have hzeros : ['0'] ++ (List.replicate (-first-1).toNat '0' ++ digits) =
        List.replicate ((-first-1).toNat+1) '0' ++ digits := rfl
    simp only [hzeros,digitsValue_zeros_left hd,NumberText.exponent?,Option.map_none,
      Option.getD_none,hlast']
  · have hsign : (if decide (first < 0) = true then -(first.natAbs : ℤ) else first.natAbs) =
        first := by
      simp only [decide_eq_true_eq]
      split <;> omega
    have hlast' : first-(digits.drop 1).length = last := by
      rw [List.length_drop]
      omega
    simp only [List.take_append_drop,NumberText.exponent?,Option.map_some,Option.getD_some,
      digitsValue_exponentDigits,hsign,hlast']

end LaidOut

/-- A word is read as the value that it stands for. -/
theorem reads_word (fuel : ℕ) {w : List Char × Value} (hw : w ∈ namedValues) (rest : List Char) :
    Reads (valueAt (fuel+1)) w.1 w.2 rest := by
  intro p
  simp only [namedValues,List.mem_cons,List.not_mem_nil,or_false] at hw
  rcases hw with rfl | rfl | rfl | rfl | rfl | rfl <;> exact ⟨_,rfl⟩

section Float
variable {k m : ℕ} {e last : ℤ}

/-- The digits of a number stand for a decimal that is read as it. -/
theorem value_parts_float (negative : Bool) (hm : 0 < m) (hc : Double.IsNormal m e)
    (h : Double.Within (k*10^last) m e) :
    ((laidOut (Nat.toDigits 10 k) last).parts negative).value = .float (.finite negative m e) := by
  have hne : Nat.toDigits 10 k ≠ [] := Nat.toDigits_ne_nil
  have hv := value_laidOut last (isDigit_toDigits k) hne
  rw [digitsValue_toDigits] at hv
  rw [← hv] at h
  simp only [NumberParts.value,NumberText.parts,laidOut_isFloat hne,Bool.false_eq_true,if_false,
    Double.ofDecimal_of_within negative hm hc h]

theorem isNumber_positive (negative : Bool) (hm : 0 < m) (hc : Double.IsNormal m e) :
    IsNumber (Double.toText "Infinity" "NaN" (.finite negative m e)).toList
      (.float (.finite negative m e)) := by
  obtain ⟨hk,hval⟩ := Double.dropZeros_spec 20 (Double.shortest m e).2 (Double.shortest_pos hm hc)
  set k := (Double.dropZeros 20 (Double.shortest m e).1 (Double.shortest m e).2).1 with hkdef
  set last := (Double.dropZeros 20 (Double.shortest m e).1 (Double.shortest m e).2).2 with hldef
  have hw := Double.within_shortest hm hc
  rw [← hval] at hw
  have hne : Nat.toDigits 10 k ≠ [] := Nat.toDigits_ne_nil
  refine ⟨laidOut (Nat.toDigits 10 k) last,negative,
    valid_laidOut hne (isDigit_toDigits k) (head?_toDigits hk),?_,
    ?_,value_parts_float negative hm hc hw⟩
  · have hm' : (m == 0) = false := beq_false_of_ne hm.ne'
    rw [text_laidOut hne]
    simp only [Double.toText,hm',Bool.false_eq_true,if_false,← hkdef,← hldef]
    cases negative <;> simp [signText]
  · simp only [NumberParts.isLong,NumberText.parts,laidOut_isFloat hne,Bool.false_and]

theorem isNumber_finite (negative : Bool) (hc : Double.IsNormal m e) :
    IsNumber (Double.toText "Infinity" "NaN" (.finite negative m e)).toList
      (.float (.finite negative m e)) := by
  rcases Nat.eq_zero_or_pos m with rfl | hm
  · obtain rfl : e = Double.minExponent := hc.2.2.2.resolve_left (by norm_num)
    refine ⟨⟨['0'],['0'],none⟩,negative,by constructor <;> simp,?_,rfl,?_⟩
    · cases negative <;> rfl
    · cases negative <;> rfl
  · exact isNumber_positive negative hm hc

end Float

end ChatMarkup.Json
