import ChatMarkup.Number.Shortest
import ChatMarkup.Proofs.Number.Rounding

/-!
# The shortest decimal is read back

The digits chosen for a number stand for a decimal in the interval that is read as it. The search
tries ever finer grids of decimals; the seventeenth is finer than any interval is wide, so one of
them has a point inside. Seventeen are tried, from a power of ten that the number reaches.
-/
namespace ChatMarkup.Double

theorem tenPower_pos (g : ℤ) : 0 < (tenPower g).1 ∧ 0 < (tenPower g).2 := by
  unfold tenPower tenTo
  split
  · exact ⟨Nat.pow_pos (by norm_num),Nat.one_pos⟩
  · exact ⟨Nat.one_pos,Nat.pow_pos (by norm_num)⟩

theorem tenPower_div (g : ℤ) : ((tenPower g).1 : ℚ)/(tenPower g).2 = 10^g := by
  unfold tenPower tenTo
  split
  · next h =>
    obtain ⟨n,rfl⟩ := Int.eq_ofNat_of_zero_le h
    simp
  · next h =>
    obtain ⟨n,hn⟩ := Int.eq_ofNat_of_zero_le (a := -g) (by omega)
    obtain rfl : g = -(n : ℤ) := by omega
    simp

theorem div_le_div_iff_nat {a b c d : ℕ} (hb : 0 < b) (hd : 0 < d) :
    (a : ℚ)/b ≤ c/d ↔ a*d ≤ c*b := by
  rw [div_le_div_iff₀ (by exact_mod_cast hb) (by exact_mod_cast hd)]
  exact_mod_cast Iff.rfl

theorem div_lt_div_iff_nat {a b c d : ℕ} (hb : 0 < b) (hd : 0 < d) :
    (a : ℚ)/b < c/d ↔ a*d < c*b := by
  rw [div_lt_div_iff₀ (by exact_mod_cast hb) (by exact_mod_cast hd)]
  exact_mod_cast Iff.rfl

namespace Neighbourhood
variable {a : Neighbourhood} {num den : ℕ}

theorem holds_iff (ha : 0 < a.den) (hd : 0 < den) : a.holds num den = true ↔
    if a.closed then (a.low : ℚ)/a.den ≤ num/den ∧ (num : ℚ)/den ≤ a.high/a.den
    else (a.low : ℚ)/a.den < num/den ∧ (num : ℚ)/den < a.high/a.den := by
  unfold holds
  split
  · simp only [Bool.and_eq_true,decide_eq_true_eq,div_le_div_iff_nat ha hd,
      div_le_div_iff_nat hd ha]
  · simp only [Bool.and_eq_true,decide_eq_true_eq,div_lt_div_iff_nat ha hd,
      div_lt_div_iff_nat hd ha]

theorem holds_of_inside (ha : 0 < a.den) (hd : 0 < den) (hl : (a.low : ℚ)/a.den < num/den)
    (hh : (num : ℚ)/den < a.high/a.den) : a.holds num den = true := by
  rw [holds_iff ha hd]
  split
  · exact ⟨hl.le,hh.le⟩
  · exact ⟨hl,hh⟩

def gridPoint (a : Neighbourhood) (g : ℤ) : ℕ := a.value*(tenPower g).2/(a.den*(tenPower g).1)

theorem gridPoint_bounds (ha : 0 < a.den) (g : ℤ) :
    a.gridPoint g*(10 : ℚ)^g ≤ a.value/a.den ∧
      (a.value : ℚ)/a.den < (a.gridPoint g+1)*(10 : ℚ)^g := by
  obtain ⟨hn,hd⟩ := tenPower_pos g
  have hp : 0 < a.den*(tenPower g).1 := Nat.mul_pos ha hn
  have low : a.gridPoint g*(tenPower g).1*a.den ≤ a.value*(tenPower g).2 := by
    rw [Nat.mul_assoc,Nat.mul_comm (tenPower g).1]
    exact Nat.div_mul_le_self _ _
  have high : a.value*(tenPower g).2 < (a.gridPoint g+1)*(tenPower g).1*a.den := by
    rw [Nat.mul_assoc,Nat.mul_comm (tenPower g).1]
    exact Nat.lt_mul_of_div_lt (Nat.lt_succ_self _) hp
  rw [← tenPower_div,mul_div_assoc',mul_div_assoc']
  constructor
  · exact_mod_cast (div_le_div_iff_nat hd ha).mpr low
  · exact_mod_cast (div_lt_div_iff_nat ha hd).mpr high

/-- A point that is found lies in the neighbourhood. -/
theorem holds_of_onGrid? {g : ℤ} {k : ℕ} (h : a.onGrid? g = some k) :
    a.holds (k*(tenPower g).1) (tenPower g).2 = true := by
  simp only [onGrid?] at h
  split_ifs at h <;> simp_all

theorem not_holds_of_onGrid? {g : ℤ} (h : a.onGrid? g = none) :
    a.holds (a.gridPoint g*(tenPower g).1) (tenPower g).2 = false ∧
      a.holds ((a.gridPoint g+1)*(tenPower g).1) (tenPower g).2 = false := by
  simp only [onGrid?] at h
  split_ifs at h
  simp_all [gridPoint]

/-- On a grid finer than the neighbourhood a point is found. -/
theorem isSome_onGrid? (ha : 0 < a.den) {g : ℤ} (hl : a.low ≤ a.value) (hh : a.value < a.high)
    (hg : (10 : ℚ)^g < (a.high : ℚ)/a.den-a.low/a.den) : (a.onGrid? g).isSome := by
  by_contra hnone
  obtain ⟨hx,hy⟩ := not_holds_of_onGrid? (Option.not_isSome_iff_eq_none.mp hnone)
  obtain ⟨below,above⟩ := a.gridPoint_bounds ha g
  have hd := (tenPower_pos g).2
  have hlow : (a.low : ℚ)/a.den ≤ a.value/a.den :=
    (div_le_div_iff_nat ha ha).mpr (Nat.mul_le_mul_right _ hl)
  have hhigh : (a.value : ℚ)/a.den < a.high/a.den :=
    (div_lt_div_iff_nat ha ha).mpr (Nat.mul_lt_mul_of_pos_right hh ha)
  have point (k : ℕ) : ((k*(tenPower g).1 : ℕ) : ℚ)/(tenPower g).2 = k*(10 : ℚ)^g := by
    rw [← tenPower_div,mul_div_assoc',Nat.cast_mul]
  -- the point below the number lies below the neighbourhood, the next one above it
  have hx' : a.gridPoint g*(10 : ℚ)^g ≤ a.low/a.den := by
    by_contra h
    rw [← point,not_le] at h
    rw [← point] at below
    exact absurd (holds_of_inside ha hd h (below.trans_lt hhigh)) (by simp [hx])
  have hy' : (a.high : ℚ)/a.den ≤ (a.gridPoint g+1)*(10 : ℚ)^g := by
    by_contra h
    rw [← Nat.cast_succ,← point,not_le] at h
    rw [← Nat.cast_succ,← point] at above
    exact absurd (holds_of_inside ha hd (hlow.trans_lt above) h) (by simpa using hy)
  linarith

/-- If the last of the grids has a point, the search ends at one. -/
theorem onGrid?_firstGrid {fuel : ℕ} {g : ℤ} (h : (a.onGrid? (g-fuel)).isSome) :
    a.onGrid? (a.firstGrid (fuel+1) g).2 = some (a.firstGrid (fuel+1) g).1 := by
  induction fuel generalizing g with
  | zero =>
    obtain ⟨k,hk⟩ := Option.isSome_iff_exists.mp (by simpa using h)
    simp [firstGrid,hk]
  | succ fuel ih =>
    rw [firstGrid]
    split
    · next k hk => exact hk
    · refine ih ?_
      rwa [sub_sub,add_comm (1 : ℤ),← Nat.cast_succ]

theorem reaches_iff (ha : 0 < a.den) (g : ℤ) :
    a.reaches g = true ↔ (10 : ℚ)^g ≤ a.value/a.den := by
  rw [← tenPower_div,div_le_div_iff_nat (tenPower_pos g).2 ha]
  simp [reaches]

/-- The number reaches the power of ten that is found if it reaches the guess. -/
theorem magnitude_le (ha : 0 < a.den) (fuel : ℕ) {g : ℤ} (h : (10 : ℚ)^g ≤ a.value/a.den) :
    (10 : ℚ)^(a.magnitude fuel g) ≤ a.value/a.den := by
  induction fuel generalizing g with
  | zero => exact h
  | succ fuel ih =>
    rw [magnitude]
    split
    · next hr => exact ih ((reaches_iff ha _).mp hr)
    · exact h

end Neighbourhood

section
variable {m : ℕ} {e : ℤ}

theorem neighbourhood_den_pos (m : ℕ) (e : ℤ) : 0 < (neighbourhood m e).den := by
  unfold neighbourhood twoTo
  dsimp only
  split
  · norm_num
  · exact Nat.mul_pos (by norm_num) (Nat.pow_pos (by norm_num))

/-- A multiple of a quarter of the last place over the common denominator. -/
theorem quarters_div (n : ℕ) (e : ℤ) :
    ((n*(if 0 ≤ e then twoTo e.toNat else 1) : ℕ) : ℚ)/
      (4*(if 0 ≤ e then 1 else twoTo (-e).toNat) : ℕ) = n*2^e/4 := by
  unfold twoTo
  split
  · next h =>
    obtain ⟨k,rfl⟩ := Int.eq_ofNat_of_zero_le h
    simp
  · next h =>
    obtain ⟨k,hk⟩ := Int.eq_ofNat_of_zero_le (a := -e) (by omega)
    obtain rfl : e = -(k : ℤ) := by omega
    simp [div_eq_mul_inv,mul_comm,mul_assoc]

theorem neighbourhood_eq (m : ℕ) (e : ℤ) :
    neighbourhood m e =
      { low := (4*m-quartersBelow m e)*(if 0 ≤ e then twoTo e.toNat else 1)
        value := 4*m*(if 0 ≤ e then twoTo e.toNat else 1)
        high := (4*m+2)*(if 0 ≤ e then twoTo e.toNat else 1)
        den := 4*(if 0 ≤ e then 1 else twoTo (-e).toNat)
        closed := m % 2 == 0 } := by
  have hb : (if (m == twoTo 52 && decide (minExponent < e)) = true then 1 else 2) =
      quartersBelow m e := by
    simp only [quartersBelow,Bool.and_eq_true,beq_iff_eq,decide_eq_true_eq]
    rfl
  simp only [neighbourhood,hb]

theorem low_div (hm : 0 < m) :
    ((neighbourhood m e).low : ℚ)/(neighbourhood m e).den = (4*m-quartersBelow m e)*2^e/4 := by
  have hle : quartersBelow m e ≤ 4*m := by
    unfold quartersBelow
    split <;> omega
  rw [neighbourhood_eq,quarters_div,Nat.cast_sub hle]
  norm_num

theorem value_div : ((neighbourhood m e).value : ℚ)/(neighbourhood m e).den = m*2^e := by
  rw [neighbourhood_eq,quarters_div]
  push_cast
  ring

theorem high_div :
    ((neighbourhood m e).high : ℚ)/(neighbourhood m e).den = (4*m+2)*2^e/4 := by
  rw [neighbourhood_eq,quarters_div]
  norm_num

/-- What lies in the neighbourhood is read as the number. -/
theorem within_of_holds (hm : 0 < m) {num den : ℕ} (hd : 0 < den)
    (h : (neighbourhood m e).holds num den = true) : Within ((num : ℚ)/den) m e := by
  rw [Neighbourhood.holds_iff (neighbourhood_den_pos m e) hd,low_div hm,high_div] at h
  have hc : (neighbourhood m e).closed = (m % 2 == 0) := rfl
  rw [hc] at h
  split at h
  · next hm =>
    refine ⟨by linarith [h.1],by linarith [h.2],fun hm' => ?_⟩
    rw [hm'] at hm
    exact absurd hm (by decide)
  · exact ⟨by linarith [h.1],by linarith [h.2],fun _ => ⟨by linarith [h.1],by linarith [h.2]⟩⟩

theorem pow_le_pow_of_scaled {x y s t n p : ℕ} (h : x^s ≤ y^t) (hy : 0 < y) (hs : 0 < s)
    (hp : t*n ≤ s*p) : x^n ≤ y^p := by
  refine (Nat.pow_le_pow_iff_left hs.ne').mp ?_
  calc (x^n)^s = (x^s)^n := Nat.pow_right_comm x n s
    _ ≤ (y^t)^n := Nat.pow_le_pow_left h n
    _ = y^(t*n) := (Nat.pow_mul ..).symm
    _ ≤ y^(p*s) := Nat.pow_le_pow_right hy (by rwa [Nat.mul_comm p])
    _ = (y^p)^s := Nat.pow_mul ..

/-- A decimal digit has a little more than 100000/30103 bits. -/
theorem bits_le_digits : 2^100000 ≤ 10^30103 := by
  decide +kernel

theorem digits_le_bits : 10^30103 ≤ 2^100002 := by
  decide +kernel

/-- The first power of ten that is tried is not above the power of two it is guessed from. -/
theorem guess_le {bits : ℤ} (h : bits ≤ 100000) :
    (10 : ℚ)^(Int.fdiv (bits*30103) 100000-1) ≤ 2^bits := by
  rw [Int.fdiv_eq_ediv_of_nonneg _ (by norm_num)]
  rcases Int.le_total 0 bits with hb | hb
  · obtain ⟨n,rfl⟩ := Int.eq_ofNat_of_zero_le hb
    obtain ⟨p,hp⟩ := Int.eq_ofNat_of_zero_le (a := (n : ℤ)*30103/100000) (by omega)
    have hle : 10^p ≤ 2^(n+3) := pow_le_pow_of_scaled digits_le_bits (by norm_num) (by norm_num)
      (by omega)
    have hq : (10 : ℚ)^p ≤ 2^n*2^3 := by
      rw [← pow_add]
      exact_mod_cast hle
    have hpos : (0 : ℚ) < 2^n := by positivity
    rw [hp,zpow_sub_one₀ (by norm_num),zpow_natCast,zpow_natCast]
    linarith
  · obtain ⟨n,hn⟩ := Int.eq_ofNat_of_zero_le (a := -bits) (by omega)
    obtain rfl : bits = -(n : ℤ) := by omega
    obtain ⟨p,hp⟩ := Int.eq_ofNat_of_zero_le (a := -(-(n : ℤ)*30103/100000-1)) (by omega)
    have hle : 2^n ≤ 10^p := pow_le_pow_of_scaled bits_le_digits (by norm_num) (by norm_num)
      (by omega)
    rw [← neg_neg (-(n : ℤ)*30103/100000-1),hp,zpow_neg,zpow_neg,zpow_natCast,zpow_natCast]
    exact inv_anti₀ (by positivity) (by exact_mod_cast hle)

/-- Sixteen places behind the first digit, the grid is finer than the neighbourhood. -/
theorem isSome_onGrid?_of_magnitude (hm : 0 < m) (hc : IsNormal m e) {g : ℤ}
    (h : (10 : ℚ)^g ≤ m*2^e) : ((neighbourhood m e).onGrid? (g-(16 : ℕ))).isSome := by
  have hp := two_zpow_pos e
  have hup : 0 < (if 0 ≤ e then twoTo e.toNat else 1) := by
    split
    · exact Nat.pow_pos (by norm_num)
    · exact Nat.one_pos
  refine Neighbourhood.isSome_onGrid? (neighbourhood_den_pos m e) ?_ ?_ ?_
  · rw [neighbourhood_eq]
    exact Nat.mul_le_mul_right _ (Nat.sub_le _ _)
  · rw [neighbourhood_eq]
    exact Nat.mul_lt_mul_of_pos_right (by omega) hup
  · have hwide : 4*m < 10^16*(2+quartersBelow m e) := by
      have := hc.1
      unfold quartersBelow
      split <;> omega
    have hwide' : (4*m : ℚ) < 10^16*(2+quartersBelow m e) := by exact_mod_cast hwide
    have := mul_lt_mul_of_pos_right hwide' hp
    rw [low_div hm,high_div,zpow_sub₀ (by norm_num),zpow_natCast,div_lt_iff₀ (by norm_num)]
    linarith

/-- The digits chosen for a number stand for a decimal in its interval. -/
theorem within_shortest (hm : 0 < m) (hc : IsNormal m e) :
    Within ((shortest m e).1*10^(shortest m e).2) m e := by
  have hd := neighbourhood_den_pos m e
  have hv := value_div (m := m) (e := e)
  obtain ⟨hlow,hhigh⟩ := log2_bounds hm
  have hguess : (10 : ℚ)^(Int.fdiv (((Nat.log2 m : ℤ)+e)*30103) 100000-1) ≤ m*2^e := by
    have hb : (Nat.log2 m : ℤ)+e ≤ 100000 := by
      have h₁ : Nat.log2 m < 53 := (Nat.log2_lt hm.ne').mpr hc.1
      have h₂ := hc.2.2.1
      simp only [maxExponent] at h₂
      omega
    refine (guess_le hb).trans ?_
    rw [zpow_add₀ (by norm_num)]
    exact mul_le_mul_of_nonneg_right hlow (two_zpow_pos e).le
  rw [← hv] at hguess
  have hmag := Neighbourhood.magnitude_le hd 4 hguess
  rw [hv] at hmag
  have hh := Neighbourhood.holds_of_onGrid?
    (Neighbourhood.onGrid?_firstGrid (isSome_onGrid?_of_magnitude hm hc hmag))
  have hw := within_of_holds hm (tenPower_pos _).2 hh
  rwa [Nat.cast_mul,mul_div_assoc,tenPower_div] at hw

theorem shortest_pos (hm : 0 < m) (hc : IsNormal m e) : 0 < (shortest m e).1 := by
  have := (within_shortest hm hc).pos hm
  exact_mod_cast pos_of_mul_pos_left this (ten_zpow_pos _).le

end

/-- Dropping zeros at the end changes neither the value nor whether there is one. -/
theorem dropZeros_spec (fuel : ℕ) {k : ℕ} (g : ℤ) (hk : 0 < k) :
    0 < (dropZeros fuel k g).1 ∧
      ((dropZeros fuel k g).1 : ℚ)*10^(dropZeros fuel k g).2 = k*10^g := by
  induction fuel generalizing k g with
  | zero => exact ⟨hk,rfl⟩
  | succ fuel ih =>
    rw [dropZeros]
    split
    · next h =>
      have hmod : k % 10 = 0 := by
        simp only [Bool.and_eq_true,beq_iff_eq] at h
        exact h.1
      obtain ⟨d,rfl⟩ := Nat.dvd_of_mod_eq_zero hmod
      rw [Nat.mul_div_cancel_left d (by norm_num)]
      obtain ⟨hpos,hval⟩ := ih (g+1) (by omega : 0 < d)
      refine ⟨hpos,hval.trans ?_⟩
      rw [zpow_add_one₀ (by norm_num)]
      push_cast
      ring
    · exact ⟨hk,rfl⟩

end ChatMarkup.Double
