import ChatMarkup.Number.Double
import Mathlib.Algebra.Order.Field.Power
import Mathlib.Data.Rat.Cast.Order
import Mathlib.Tactic.FieldSimp
import Mathlib.Tactic.Linarith
import Mathlib.Tactic.Ring

/-!
# Rounding to the nearest number

Every binary number is the answer to an interval of fractions around it: half a unit of its last
place to either side, and half as much below a power of two, where the numbers lie twice as dense.
The ends belong to the number with the even significand. A fraction is read as the one number whose
interval holds it, however the fraction is written.
-/
namespace ChatMarkup.Double

/-- The one form of a finite number: all 53 bits, or fewer at the least exponent. -/
def IsNormal (m : ℕ) (e : ℤ) : Prop :=
  m < 2^53 ∧ minExponent ≤ e ∧ e ≤ maxExponent ∧ (2^52 ≤ m ∨ e = minExponent)

def IsCanonical : Double → Prop
  | .finite _ m e => IsNormal m e
  | _ => True

/-- The distance from a number down to the end of its interval, in quarters of its last place. -/
def quartersBelow (m : ℕ) (e : ℤ) : ℕ := if m = 2^52 ∧ minExponent < e then 1 else 2

structure Within (v : ℚ) (m : ℕ) (e : ℤ) : Prop where
  low : (4*m-quartersBelow m e)*2^e ≤ 4*v
  high : 4*v ≤ (4*m+2)*2^e
  inside : m % 2 = 1 → (4*m-quartersBelow m e)*2^e < 4*v ∧ 4*v < (4*m+2)*2^e

/-- A fraction is nearest to a whole number, and of two as near to the even one. -/
structure RoundsTo (v : ℚ) (m : ℕ) : Prop where
  low : 2*m-1 ≤ 2*v
  high : 2*v ≤ 2*m+1
  inside : m % 2 = 1 → 2*m-1 < 2*v ∧ 2*v < 2*m+1

theorem two_zpow_pos (e : ℤ) : (0 : ℚ) < 2^e := zpow_pos (by norm_num) e

theorem ten_zpow_pos (e : ℤ) : (0 : ℚ) < 10^e := zpow_pos (by norm_num) e

theorem two_zpow_succ (e : ℤ) : (2 : ℚ)^(e+1) = 2*2^e := by
  rw [zpow_add_one₀ (by norm_num),mul_comm]

section RoundDiv
variable {num den m : ℕ}

/-- The rounded quotient, in whole numbers. -/
theorem roundDiv_eq (hd : 0 < den) (hl : 2*(m*den) ≤ 2*num+den) (hh : 2*num ≤ 2*(m*den)+den)
    (hi : m % 2 = 1 → 2*(m*den) < 2*num+den ∧ 2*num < 2*(m*den)+den) : roundDiv num den = m := by
  have hn : num/den*den+num%den = num := Nat.div_add_mod' num den
  have hr : num%den < den := Nat.mod_lt num hd
  have hm : m = num/den ∨ m = num/den+1 := by
    by_contra h
    rcases (by omega : m+1 ≤ num/den ∨ num/den+2 ≤ m) with h | h
    · have := Nat.mul_le_mul_right den h
      rw [Nat.add_mul] at this
      omega
    · have := Nat.mul_le_mul_right den h
      rw [Nat.add_mul] at this
      omega
  unfold roundDiv
  simp only [beq_iff_eq,Bool.and_eq_true]
  rcases hm with rfl | rfl
  · split_ifs <;> omega
  · rw [Nat.add_mul] at hl hh hi
    split_ifs <;> omega

theorem roundDiv_of_roundsTo (hd : 0 < den) (h : RoundsTo ((num : ℚ)/den) m) :
    roundDiv num den = m := by
  have hq : (0 : ℚ) < den := by exact_mod_cast hd
  have hv : (num : ℚ)/den*den = num := div_mul_cancel₀ _ hq.ne'
  refine roundDiv_eq hd ?_ ?_ fun hm => ⟨?_,?_⟩
  · have := mul_le_mul_of_nonneg_right h.low hq.le
    have : (2*(m*den) : ℚ) ≤ 2*num+den := by linarith
    exact_mod_cast this
  · have := mul_le_mul_of_nonneg_right h.high hq.le
    have : (2*num : ℚ) ≤ 2*(m*den)+den := by linarith
    exact_mod_cast this
  · have := mul_lt_mul_of_pos_right (h.inside hm).1 hq
    have : (2*(m*den) : ℚ) < 2*num+den := by linarith
    exact_mod_cast this
  · have := mul_lt_mul_of_pos_right (h.inside hm).2 hq
    have : (2*num : ℚ) < 2*(m*den)+den := by linarith
    exact_mod_cast this

end RoundDiv

section Scale
variable {num den : ℕ}

theorem scaleDown_den_pos (hd : 0 < den) (e : ℤ) : 0 < (scaleDown num den e).2 := by
  unfold scaleDown
  split
  · exact Nat.mul_pos hd (Nat.pow_pos (by norm_num))
  · exact hd

/-- Scaling divides the fraction by the power of two. -/
theorem scaleDown_div (num den : ℕ) (e : ℤ) :
    ((scaleDown num den e).1 : ℚ)/(scaleDown num den e).2 = num/den/2^e := by
  unfold scaleDown twoTo
  split
  · next h =>
    obtain ⟨n,rfl⟩ := Int.eq_ofNat_of_zero_le h
    simp [div_div]
  · next h =>
    obtain ⟨n,hn⟩ := Int.eq_ofNat_of_zero_le (a := -e) (by omega)
    obtain rfl : e = -(n : ℤ) := by omega
    simp [div_eq_mul_inv,mul_right_comm]

end Scale

structure HasExponent (v : ℚ) (e : ℤ) : Prop where
  low : 2^52*2^e ≤ v
  high : v < 2^53*2^e

theorem HasExponent.lt_iff {v : ℚ} {e : ℤ} (h : HasExponent v e) (f : ℤ) :
    v < 2^52*2^f ↔ e < f := by
  constructor
  · intro hv
    by_contra hf
    have := zpow_le_zpow_right₀ (by norm_num : (1 : ℚ) ≤ 2) (not_lt.mp hf)
    linarith [h.low]
  · intro hf
    have := zpow_le_zpow_right₀ (by norm_num : (1 : ℚ) ≤ 2) (by omega : e+1 ≤ f)
    rw [two_zpow_succ] at this
    linarith [h.high]

theorem HasExponent.unique {v : ℚ} {e f : ℤ} (h : HasExponent v e) (g : HasExponent v f) :
    e = f := by
  have h₁ := (h.lt_iff f).not.mp (not_lt.mpr g.low)
  have h₂ := (g.lt_iff e).not.mp (not_lt.mpr h.low)
  omega

theorem log2_bounds {n : ℕ} (h : 0 < n) :
    (2 : ℚ)^(Nat.log2 n : ℤ) ≤ n ∧ (n : ℚ) < 2*2^(Nat.log2 n : ℤ) := by
  have h₁ := Nat.log2_self_le h.ne'
  have h₂ := Nat.lt_log2_self (n := n)
  rw [pow_succ'] at h₂
  simp only [zpow_natCast]
  exact ⟨by exact_mod_cast h₁,by exact_mod_cast h₂⟩

theorem hasExponent_exponentOf {num den : ℕ} (hn : 0 < num) (hd : 0 < den) :
    HasExponent ((num : ℚ)/den) (exponentOf num den) := by
  obtain ⟨n₁,n₂⟩ := log2_bounds hn
  obtain ⟨d₁,d₂⟩ := log2_bounds hd
  have hdq : (0 : ℚ) < den := by exact_mod_cast hd
  unfold exponentOf
  set guess : ℤ := (Nat.log2 num : ℤ)-Nat.log2 den-52 with hg
  have hsplit : (2 : ℚ)^(Nat.log2 num : ℤ) = 2^52*2^guess*2^(Nat.log2 den : ℤ) := by
    rw [← zpow_natCast (2 : ℚ) 52,← zpow_add₀ (by norm_num),← zpow_add₀ (by norm_num),hg]
    congr 1
    push_cast
    ring
  have hG := two_zpow_pos guess
  -- the quotient lies between half the guessed power and twice that power
  have low : 2^51*2^guess < (num : ℚ)/den := by
    rw [lt_div_iff₀ hdq]
    have := mul_lt_mul_of_pos_left d₂ (mul_pos (by norm_num : (0 : ℚ) < 2^51) hG)
    calc 2^51*2^guess*(den : ℚ) < 2^51*2^guess*(2*2^(Nat.log2 den : ℤ)) := this
      _ = 2^(Nat.log2 num : ℤ) := by rw [hsplit]; ring
      _ ≤ num := n₁
  have high : (num : ℚ)/den < 2^53*2^guess := by
    rw [div_lt_iff₀ hdq]
    have := mul_le_mul_of_nonneg_left d₁ (mul_pos (by norm_num : (0 : ℚ) < 2^53) hG).le
    calc (num : ℚ) < 2*2^(Nat.log2 num : ℤ) := n₂
      _ = 2^53*2^guess*2^(Nat.log2 den : ℤ) := by rw [hsplit]; ring
      _ ≤ 2^53*2^guess*den := this
  have hs : (scaleDown num den guess).1 < (scaleDown num den guess).2*twoTo 52 ↔
      (num : ℚ)/den < 2^52*2^guess := by
    have hp : (0 : ℚ) < (scaleDown num den guess).2 := by exact_mod_cast scaleDown_den_pos hd guess
    rw [← div_lt_iff₀ hG,← scaleDown_div,div_lt_iff₀ hp,mul_comm]
    exact_mod_cast Iff.rfl
  simp only [hs]
  split
  · next h =>
    have he : (2 : ℚ)^guess = 2*2^(guess-1) := by rw [← two_zpow_succ,sub_add_cancel]
    rw [he] at low h
    exact ⟨by linarith,by linarith⟩
  · next h => exact ⟨not_lt.mp h,high⟩

theorem settle_of_lt (negative : Bool) {m : ℕ} {e : ℤ} (hm : m < 2^53) (he : e ≤ maxExponent) :
    settle negative m e = .finite negative m e := by
  have hne : (m == twoTo 53) = false := beq_false_of_ne hm.ne
  simp only [settle,hne,Bool.false_eq_true,if_false,not_lt.mpr he]

theorem settle_carry (negative : Bool) {e : ℤ} (he : e+1 ≤ maxExponent) :
    settle negative (2^53) e = .finite negative (2^52) (e+1) := by
  have hcarry : (2^53 == twoTo 53) = true := rfl
  simp only [settle,hcarry,if_true,not_lt.mpr he,if_false]
  rfl

section Within
variable {v : ℚ} {m : ℕ} {e : ℤ}

theorem quartersBelow_le (m : ℕ) (e : ℤ) : (quartersBelow m e : ℚ) ≤ 2 := by
  unfold quartersBelow
  split <;> norm_num

/-- Scaled by its exponent, the interval lies in that of the significand. -/
theorem Within.roundsTo (h : Within v m e) : RoundsTo (v/2^e) m := by
  have he := two_zpow_pos e
  have hb := mul_le_mul_of_nonneg_right (quartersBelow_le m e) he.le
  have hv : v/2^e*2^e = v := div_mul_cancel₀ _ he.ne'
  refine ⟨?_,?_,fun hm => ⟨?_,?_⟩⟩
  · refine le_of_mul_le_mul_right ?_ he
    linarith [h.low]
  · refine le_of_mul_le_mul_right ?_ he
    linarith [h.high]
  · refine lt_of_mul_lt_mul_right ?_ he.le
    linarith [(h.inside hm).1]
  · refine lt_of_mul_lt_mul_right ?_ he.le
    linarith [(h.inside hm).2]

theorem Within.lt_top (h : Within v m e) (hm : m < 2^53) : v < 2^53*2^e := by
  have hm' : (m : ℚ)+1 ≤ 2^53 := by exact_mod_cast hm
  have := mul_le_mul_of_nonneg_right hm' (two_zpow_pos e).le
  linarith [h.high,two_zpow_pos e]

theorem Within.pos (h : Within v m e) (hm : 0 < m) : 0 < v := by
  have hm' : (1 : ℚ) ≤ m := by exact_mod_cast hm
  have h₁ := mul_le_mul_of_nonneg_right (quartersBelow_le m e) (two_zpow_pos e).le
  have h₂ := mul_le_mul_of_nonneg_right hm' (two_zpow_pos e).le
  linarith [h.low,two_zpow_pos e]

/-- Only the least significand of 53 bits has fractions of fewer bits in its interval. -/
theorem Within.eq_of_lt (h : Within v m e) (hm : 2^52 ≤ m) (hv : v < 2^52*2^e) : m = 2^52 := by
  by_contra hne
  have hm' : (2^52+1 : ℚ) ≤ m := by exact_mod_cast (by omega : 2^52+1 ≤ m)
  have h₁ := mul_le_mul_of_nonneg_right (quartersBelow_le m e) (two_zpow_pos e).le
  have h₂ := mul_le_mul_of_nonneg_right hm' (two_zpow_pos e).le
  linarith [h.low,two_zpow_pos e]

/-- A fraction just below a power of two is rounded up to it. -/
theorem Within.roundsTo_carry (h : Within v (2^52) e) (he : minExponent < e)
    (hv : v < 2^52*2^e) : RoundsTo (v/2^(e-1)) (2^53) ∧ HasExponent v (e-1) := by
  have hp := two_zpow_pos (e-1)
  have hs : (2 : ℚ)^e = 2*2^(e-1) := by rw [← two_zpow_succ,sub_add_cancel]
  have hq : v/2^(e-1)*2^(e-1) = v := div_mul_cancel₀ _ hp.ne'
  have hl := h.low
  simp only [quartersBelow,he,and_self,if_true,hs] at hl
  rw [hs] at hv
  push_cast at hl
  refine ⟨⟨?_,?_,fun hm => absurd hm (by norm_num)⟩,?_,?_⟩
  · refine le_of_mul_le_mul_right ?_ hp
    push_cast
    linarith
  · refine le_of_mul_le_mul_right ?_ hp
    push_cast
    linarith
  · linarith
  · linarith

/-- A fraction in the interval of a number is read as that number. -/
theorem ofFraction_of_within (negative : Bool) {num den : ℕ} (hm : 0 < m) (hd : 0 < den)
    (hc : IsNormal m e) (h : Within ((num : ℚ)/den) m e) :
    ofFraction negative num den = .finite negative m e := by
  obtain ⟨hlt,hmin,hmax,hbits⟩ := hc
  have hn : 0 < num := by
    by_contra h₀
    obtain rfl : num = 0 := by omega
    exact absurd (h.pos hm) (by simp)
  have hx := hasExponent_exponentOf hn hd
  -- scaled by an exponent, the fraction is rounded to a significand
  have round {f : ℤ} {n : ℕ} (hf : max (exponentOf num den) minExponent = f)
      (hr : RoundsTo ((num : ℚ)/den/2^f) n) :
      ofFraction negative num den = settle negative n f := by
    simp only [ofFraction,hf]
    rw [roundDiv_of_roundsTo (scaleDown_den_pos hd f) (by rwa [scaleDown_div])]
  rcases lt_or_ge ((num : ℚ)/den) (2^52*2^e) with hv | hv
  · have hlow := (hx.lt_iff _).mp hv
    rcases eq_or_lt_of_le hmin with rfl | he
    · rw [round (max_eq_right hlow.le) h.roundsTo,settle_of_lt negative hlt hmax]
    · obtain rfl : m = 2^52 := h.eq_of_lt (hbits.resolve_right he.ne') hv
      obtain ⟨hr,hy⟩ := h.roundsTo_carry he hv
      have hex : max (exponentOf num den) minExponent = e-1 := by
        rw [hx.unique hy]
        exact max_eq_left (by omega)
      rw [round hex hr,settle_carry negative (by omega),sub_add_cancel]
  · have hex : exponentOf num den = e := hx.unique ⟨hv,h.lt_top hlt⟩
    rw [round (by rw [hex,max_eq_left hmin]) h.roundsTo,settle_of_lt negative hlt hmax]

end Within

section Decimal
variable {digits m : ℕ} {tens e : ℤ}

theorem lt_ten_pow (digits : ℕ) : digits < 10^(Nat.log2 digits/3+1) := calc
  digits < 2^(Nat.log2 digits+1) := Nat.lt_log2_self
  _ ≤ 2^(3*(Nat.log2 digits/3+1)) := Nat.pow_le_pow_right (by norm_num) (by omega)
  _ = 8^(Nat.log2 digits/3+1) := by rw [Nat.pow_mul]
  _ ≤ 10^(Nat.log2 digits/3+1) := Nat.pow_le_pow_left (by norm_num) _

theorem two_zpow_le_ten_zpow (n : ℕ) : (2 : ℚ)^(3*n : ℤ) ≤ 10^(n : ℤ) := by
  rw [zpow_mul,zpow_natCast,zpow_natCast]
  exact pow_le_pow_left₀ (by norm_num) (by norm_num) n

/-- No fraction in an interval is so large that it is decided without computing it. -/
theorem Within.tens_le (h : Within (digits*10^tens) m e) (hm : 0 < m) (hc : IsNormal m e) :
    tens ≤ 400 := by
  by_contra ht
  have hd : (1 : ℚ) ≤ digits := by
    have : 0 < (digits : ℚ) := pos_of_mul_pos_left (h.pos hm) (ten_zpow_pos tens).le
    exact_mod_cast this
  have := calc (2 : ℚ)^(53+e) = 2^53*2^e := zpow_add₀ (by norm_num) _ _
    _ > digits*10^tens := h.lt_top hc.1
    _ ≥ 10^tens := le_mul_of_one_le_left (ten_zpow_pos tens).le hd
    _ ≥ 10^((400 : ℕ) : ℤ) := zpow_le_zpow_right₀ (by norm_num) (by omega)
    _ ≥ 2^(3*(400 : ℕ) : ℤ) := two_zpow_le_ten_zpow 400
  have he := (zpow_lt_zpow_iff_right₀ (by norm_num : (1 : ℚ) < 2)).mp this
  have := hc.2.2.1
  simp only [maxExponent] at this
  omega

/-- Nor so small. -/
theorem Within.le_tens (h : Within (digits*10^tens) m e) (hm : 0 < m) (hc : IsNormal m e) :
    -400 ≤ tens+(Nat.log2 digits/3 : ℕ)+1 := by
  by_contra ht
  have hd : (digits : ℚ) < 10^((Nat.log2 digits/3 : ℕ)+1 : ℤ) := by
    have := lt_ten_pow digits
    exact_mod_cast this
  have hm' : (1 : ℚ) ≤ m := by exact_mod_cast hm
  have hb := mul_le_mul_of_nonneg_right (quartersBelow_le m e) (two_zpow_pos e).le
  have hl := mul_le_mul_of_nonneg_right hm' (two_zpow_pos e).le
  have hten := inv_anti₀ (two_zpow_pos _) (two_zpow_le_ten_zpow 400)
  rw [← zpow_neg,← zpow_neg] at hten
  have := calc (2 : ℚ)^(1+e) = 2*2^e := zpow_add₀ (by norm_num) _ _
    _ ≤ 4*(digits*10^tens) := by linarith [h.low]
    _ ≤ 4*(10^((Nat.log2 digits/3 : ℕ)+1 : ℤ)*10^tens) := by
      have := mul_le_mul_of_nonneg_right hd.le (ten_zpow_pos tens).le
      linarith
    _ = 4*10^((Nat.log2 digits/3 : ℕ)+1+tens) := by
      rw [zpow_add₀ (by norm_num : (10 : ℚ) ≠ 0) _ tens]
    _ ≤ 4*10^(-((400 : ℕ) : ℤ)) := by
      have := zpow_le_zpow_right₀ (by norm_num : (1 : ℚ) ≤ 10)
        (by omega : (Nat.log2 digits/3 : ℕ)+1+tens ≤ -((400 : ℕ) : ℤ))
      linarith
    _ ≤ 4*2^(-(3*(400 : ℕ)) : ℤ) := by linarith
    _ = 2^(2+(-(3*(400 : ℕ))) : ℤ) := by
      rw [zpow_add₀ (by norm_num : (2 : ℚ) ≠ 0)]
      congr 1
  have he := (zpow_le_zpow_iff_right₀ (by norm_num : (1 : ℚ) < 2)).mp this
  have := hc.2.1
  simp only [minExponent] at this
  omega

/-- A decimal in the interval of a number is read as that number. -/
theorem ofDecimal_of_within (negative : Bool) (hm : 0 < m) (hc : IsNormal m e)
    (h : Within (digits*10^tens) m e) : ofDecimal negative digits tens = .finite negative m e := by
  have hd : (digits == 0) = false := by
    refine beq_false_of_ne fun h₀ => ?_
    rw [h₀] at h
    exact absurd (h.pos hm) (by simp)
  have hhigh := h.tens_le hm hc
  have hlow := h.le_tens hm hc
  have hlow' : ¬ tens+(Nat.log2 digits : ℤ)/3+1 < -400 := by
    push_cast at hlow
    omega
  simp only [ofDecimal,hd,Bool.false_eq_true,if_false,not_lt.mpr hhigh,hlow']
  split
  · next ht =>
    obtain ⟨n,rfl⟩ := Int.eq_ofNat_of_zero_le ht
    refine ofFraction_of_within negative hm Nat.one_pos hc ?_
    simpa [tenTo] using h
  · next ht =>
    obtain ⟨n,hn⟩ := Int.eq_ofNat_of_zero_le (a := -tens) (by omega)
    obtain rfl : tens = -(n : ℤ) := by omega
    refine ofFraction_of_within negative hm (Nat.pow_pos (by norm_num)) hc ?_
    simpa [tenTo,div_eq_mul_inv] using h

end Decimal

section Canonical
variable {num den m : ℕ} {e : ℤ}

theorem roundDiv_bounds (num den : ℕ) :
    num/den ≤ roundDiv num den ∧ roundDiv num den ≤ num/den+1 := by
  simp only [roundDiv]
  split_ifs <;> omega

theorem isCanonical_settle (negative : Bool) (hm : m ≤ 2^53) (he : minExponent ≤ e)
    (hb : 2^52 ≤ m ∨ e = minExponent) : IsCanonical (settle negative m e) := by
  unfold settle
  split_ifs with hc hx hx
  · trivial
  · exact ⟨by decide,by omega,not_lt.mp hx,.inl (by decide)⟩
  · trivial
  · have hne : m ≠ 2^53 := fun h => hc (beq_iff_eq.mpr h)
    exact ⟨by omega,he,not_lt.mp hx,hb⟩

/-- The number that a fraction is read as is in its one form. -/
theorem isCanonical_ofFraction (negative : Bool) (hn : 0 < num) (hd : 0 < den) :
    IsCanonical (ofFraction negative num den) := by
  have hx := hasExponent_exponentOf hn hd
  simp only [ofFraction]
  set e := max (exponentOf num den) minExponent with he
  have hp := two_zpow_pos e
  have hs : 0 < (scaleDown num den e).2 := scaleDown_den_pos hd e
  have hsq : (0 : ℚ) < (scaleDown num den e).2 := by exact_mod_cast hs
  have hv := scaleDown_div num den e
  obtain ⟨hlow,hhigh⟩ := roundDiv_bounds (scaleDown num den e).1 (scaleDown num den e).2
  have htop : (scaleDown num den e).1/(scaleDown num den e).2 < 2^53 := by
    rw [Nat.div_lt_iff_lt_mul hs]
    have hlt : ((scaleDown num den e).1 : ℚ)/(scaleDown num den e).2 < 2^53 := by
      rw [hv,div_lt_iff₀ hp]
      have hle : exponentOf num den ≤ e := le_max_left _ _
      have := zpow_le_zpow_right₀ (by norm_num : (1 : ℚ) ≤ 2) hle
      linarith [hx.high]
    rw [div_lt_iff₀ hsq] at hlt
    exact_mod_cast hlt
  refine isCanonical_settle negative (by omega) (le_max_right _ _) ?_
  rcases max_choice (exponentOf num den) minExponent with hc | hc
  · refine .inl (le_trans ?_ hlow)
    rw [Nat.le_div_iff_mul_le hs]
    have hle : (2^52 : ℚ) ≤ ((scaleDown num den e).1 : ℚ)/(scaleDown num den e).2 := by
      rw [hv,le_div_iff₀ hp,he,hc]
      exact hx.low
    rw [le_div_iff₀ hsq] at hle
    exact_mod_cast hle
  · exact .inr (he.trans hc)

/-- So is the number that a decimal is read as. -/
theorem isCanonical_ofDecimal (negative : Bool) (digits : ℕ) (tens : ℤ) :
    IsCanonical (ofDecimal negative digits tens) := by
  have hz : IsCanonical (zero negative) :=
    ⟨by decide,le_refl _,by decide,.inr rfl⟩
  simp only [ofDecimal]
  split_ifs with hd
  · exact hz
  · trivial
  · exact hz
  all_goals have hd : 0 < digits := Nat.pos_of_ne_zero (by simpa using hd)
  · exact isCanonical_ofFraction negative (Nat.mul_pos hd (Nat.pow_pos (by norm_num))) Nat.one_pos
  · exact isCanonical_ofFraction negative hd (Nat.pow_pos (by norm_num))

end Canonical

end ChatMarkup.Double
