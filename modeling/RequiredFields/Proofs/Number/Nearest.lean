import RequiredFields.Proofs.Number.Rounding

/-!
# The floating point number nearest to a rational number

Reading a decimal number rounds its value: `units?_ofDecimal` says that the units of the result are
`nearest?` of the value, however the number was written. The cases that are decided by the exponent
and the length of the significand alone are no exceptions: they round to zero, or beyond every
finite number. `nearest?` has a result exactly below `overflow` (`nearest?_eq_none_iff`), keeps the
order (`le_of_nearest?`), and is exact on the whole numbers of at most 53 binary places
(`nearest?_intCast`).
-/

namespace RequiredFields

/-- A number behind its sign. -/
def signed (negative : Bool) (n : Nat) : Int :=
  if negative then -(n : Int) else n

namespace Binary64

variable {num den : Nat}

/-- The units in one, as a power. -/
theorem one_eq : one = 2 ^ 1074 := by decide +kernel

/-- One is not zero units. -/
theorem one_pos : 0 < one := by decide +kernel

/-- The least number that is rounded beyond every finite number: it lies in the middle between the
greatest finite number and the limit, and the tie goes to the limit. -/
def overflow : Nat := 2 ^ 1024 - 2 ^ 970

/-- What the numbers below the overflow are rounded to is finite. -/
theorem roundUnits_lt_limit (hden : 0 < den) (h : num < overflow * one * den) :
    roundUnits num den < limit := by
  by_cases hlow : num < 2 ^ 2097 * den
  · calc roundUnits num den ≤ 2 ^ 2097 := roundUnits_le_two_pow hden hlow
      _ < limit := by decide +kernel
  · -- The number is on the last grid, at most a half above its last point.
    have hlog : (num / den).log2 = 2097 := by
      have hlimit : overflow * one ≤ 2 ^ (2097 + 1) := by decide +kernel
      exact log2_eq_of_lt ((Nat.le_div_iff_mul_le hden).2 (not_lt.1 hlow))
        (((Nat.div_lt_iff_lt_mul hden).2 h).trans_le hlimit)
    have hspacing : spacing (num / den) = 2 ^ 2045 := by
      have hexponent : 2097 + 1 - precision = 2045 := rfl
      rw [spacing_eq, hlog, hexponent]
    have hhalf : 2 * (overflow * one) = (2 * (2 ^ 53 - 1) + 1) * 2 ^ 2045 := by decide +kernel
    have hround : roundHalfEven num (den * 2 ^ 2045) ≤ 2 ^ 53 - 1 := by
      refine roundHalfEven_le_of_lt ?_
      calc 2 * num < 2 * (overflow * one * den) := by omega
        _ = 2 * (overflow * one) * den := by ring
        _ = (2 * (2 ^ 53 - 1) + 1) * (den * 2 ^ 2045) := by
          rw [hhalf, Nat.mul_assoc, Nat.mul_comm den]
    calc roundUnits num den ≤ (2 ^ 53 - 1) * 2 ^ 2045 := by
          rw [roundUnits, hspacing]
          exact Nat.mul_le_mul_right _ hround
      _ < limit := by decide +kernel

/-- Exactly the numbers below the overflow are rounded to finite ones. -/
theorem roundUnits_lt_limit_iff (hden : 0 < den) :
    roundUnits num den < limit ↔ num < overflow * one * den := by
  refine ⟨fun h => ?_, roundUnits_lt_limit hden⟩
  by_contra hle
  have hmono : roundUnits (overflow * one) 1 ≤ roundUnits num den := by
    refine roundUnits_le_roundUnits Nat.one_pos hden ?_
    rw [Nat.mul_one]
    exact not_lt.1 hle
  have hlimit : limit ≤ roundUnits (overflow * one) 1 := by decide +kernel
  omega

/-- A ratio has a nearest finite number if it is below the overflow. -/
theorem units?_ofRatio (negative : Bool) (hden : 0 < den) :
    (ofRatio negative num den).units? =
      if num < overflow * one * den then some (signed negative (roundUnits num den)) else none := by
  simp only [ofRatio, roundUnits_lt_limit_iff hden]
  split <;> rfl

/-! ## Rational numbers -/

/-- The whole number of units nearest to the size of a rational number. -/
def nearestUnits (x : ℚ) : Nat :=
  roundUnits (x.num.natAbs * one) x.den

/-- The number nearest to a rational number, in units, if it is finite. -/
def nearest? (x : ℚ) : Option Int :=
  (ofRatio (decide (x < 0)) (x.num.natAbs * one) x.den).units?

/-- The size of a rational number, as its terms say it. -/
theorem abs_eq_div (x : ℚ) : |x| = (x.num.natAbs : ℚ) / x.den := by
  rw [Rat.abs_def, Rat.divInt_eq_div, Int.cast_natCast, Int.cast_natCast]

/-- The terms of a rational number are below the overflow exactly if the number is. -/
theorem num_lt_iff (x : ℚ) :
    x.num.natAbs * one < overflow * one * x.den ↔ |x| < overflow := by
  have hden : (0 : ℚ) < x.den := by exact_mod_cast x.den_pos
  rw [abs_eq_div, div_lt_iff₀ hden, Nat.mul_right_comm]
  exact (Nat.mul_lt_mul_right one_pos).trans (by exact_mod_cast Iff.rfl)

/-- Below the overflow there is a nearest finite number, and not above. -/
theorem nearest?_eq (x : ℚ) :
    nearest? x =
      if |x| < overflow then some (signed (decide (x < 0)) (nearestUnits x)) else none := by
  rw [nearest?, units?_ofRatio _ x.den_pos, if_congr (num_lt_iff x) rfl rfl]
  rfl

/-- Beyond the overflow there is no nearest finite number. -/
theorem nearest?_eq_none_iff {x : ℚ} : nearest? x = none ↔ (overflow : ℚ) ≤ |x| := by
  rw [nearest?_eq, ite_eq_right_iff, ← not_lt]
  exact forall_congr' fun _ => iff_false_intro (Option.some_ne_none _)

/-- Below the overflow there is a nearest finite number. -/
theorem exists_nearest? {x : ℚ} (h : |x| < overflow) : ∃ units, nearest? x = some units :=
  ⟨_, (nearest?_eq x).trans (if_pos h)⟩

/-- The units do not shrink when the size of the number grows. -/
theorem nearestUnits_le_nearestUnits {x y : ℚ} (h : |x| ≤ |y|) :
    nearestUnits x ≤ nearestUnits y := by
  have hx : (0 : ℚ) < x.den := by exact_mod_cast x.den_pos
  have hy : (0 : ℚ) < y.den := by exact_mod_cast y.den_pos
  rw [abs_eq_div, abs_eq_div, div_le_div_iff₀ hx hy] at h
  have hcross : x.num.natAbs * y.den ≤ y.num.natAbs * x.den := by exact_mod_cast h
  refine roundUnits_le_roundUnits x.den_pos y.den_pos ?_
  rw [Nat.mul_right_comm, Nat.mul_right_comm y.num.natAbs]
  exact Nat.mul_le_mul_right one hcross

/-- Zero has no units. -/
theorem nearestUnits_zero : nearestUnits 0 = 0 :=
  roundUnits_eq_zero (by simp)

/-- Rounding keeps the order of rational numbers. -/
theorem le_of_nearest? {x y : ℚ} {u v : Int} (hu : nearest? x = some u) (hv : nearest? y = some v)
    (h : x ≤ y) : u ≤ v := by
  rw [nearest?_eq, Option.ite_none_right_eq_some, Option.some_inj] at hu hv
  obtain ⟨-, rfl⟩ := hu
  obtain ⟨-, rfl⟩ := hv
  by_cases hy : y < 0
  · -- Below zero the greater number is the smaller one in size.
    have hx : x < 0 := h.trans_lt hy
    have hunits := nearestUnits_le_nearestUnits (x := y) (y := x)
      (by rw [abs_of_neg hx, abs_of_neg hy]; exact neg_le_neg h)
    simp only [signed, decide_eq_true hx, decide_eq_true hy, if_true]
    omega
  · by_cases hx : x < 0
    · simp only [signed, decide_eq_true hx, decide_eq_false hy, if_true, Bool.false_eq_true,
        if_false]
      omega
    · have hunits := nearestUnits_le_nearestUnits (x := x) (y := y)
        (by rw [abs_of_nonneg (not_lt.1 hx), abs_of_nonneg (not_lt.1 hy)]; exact h)
      simp only [signed, decide_eq_false hx, decide_eq_false hy, Bool.false_eq_true, if_false]
      omega

/-- A ratio of units is rounded as the rational number that it is. -/
theorem roundUnits_eq_nearestUnits {size : ℚ} (hden : 0 < den) (hnonneg : 0 ≤ size)
    (hsize : (num : ℚ) = size * one * den) : roundUnits num den = nearestUnits size := by
  refine roundUnits_congr hden size.den_pos ?_
  have hne : (size.den : ℚ) ≠ 0 := by exact_mod_cast size.den_nz
  have hterms : size * size.den = size.num.natAbs := by
    have habs := abs_eq_div size
    rw [abs_of_nonneg hnonneg] at habs
    exact (eq_div_iff hne).1 habs
  have hcross : (num : ℚ) * size.den = size.num.natAbs * one * den := by
    rw [hsize, ← hterms]
    ring
  exact_mod_cast hcross

/-- A negative number has as many units as the positive one of its size. -/
theorem nearestUnits_neg (x : ℚ) : nearestUnits (-x) = nearestUnits x := by
  rw [nearestUnits, Rat.num_neg_eq_neg_num, Int.natAbs_neg, Rat.neg_den, nearestUnits]

/-- The number nearest to a size with a sign has this sign. -/
theorem nearest?_signed {size : ℚ} (hsize : 0 ≤ size) (negative : Bool) :
    nearest? (if negative then -size else size) =
      if size < overflow then some (signed negative (nearestUnits size)) else none := by
  cases negative with
  | false =>
    rw [if_neg Bool.false_ne_true, nearest?_eq, abs_of_nonneg hsize,
      decide_eq_false (not_lt.2 hsize)]
  | true =>
    rw [if_pos rfl, nearest?_eq, abs_neg, abs_of_nonneg hsize, nearestUnits_neg]
    rcases hsize.lt_or_eq with hpos | hzero
    · rw [decide_eq_true (neg_neg_of_pos hpos)]
    · -- Zero has both signs, and no units with either.
      rw [← hzero, nearestUnits_zero]
      rfl

/-- A ratio with a sign is rounded as the rational number that it writes. -/
theorem units?_ofRatio_eq_nearest? {size : ℚ} (negative : Bool) (hden : 0 < den)
    (hnonneg : 0 ≤ size) (hsize : (num : ℚ) = size * one * den) :
    (ofRatio negative num den).units? = nearest? (if negative then -size else size) := by
  have hone : (0 : ℚ) < one := by exact_mod_cast one_pos
  have hden' : (0 : ℚ) < den := by exact_mod_cast hden
  have hlt : num < overflow * one * den ↔ size < overflow := by
    rw [← Nat.cast_lt (α := ℚ), hsize, Nat.cast_mul, Nat.cast_mul, mul_lt_mul_iff_left₀ hden',
      mul_lt_mul_iff_left₀ hone]
  rw [units?_ofRatio negative hden, nearest?_signed hnonneg, if_congr hlt rfl rfl,
    roundUnits_eq_nearestUnits hden hnonneg hsize]

/-- A whole number of at most 53 binary places is on its own grid, and the next one is. -/
theorem spacing_dvd_mul_one {n : Nat} (h : n ≤ 2 ^ precision) : spacing (n * one) ∣ n * one := by
  obtain ⟨places, hone⟩ : ∃ places, one = 2 ^ places := ⟨1074, one_eq⟩
  by_cases hzero : n = 0
  · rw [hzero, Nat.zero_mul]
    exact Nat.dvd_zero _
  rcases h.lt_or_eq with hlt | heq
  · -- The grid is not coarser than one.
    refine Nat.dvd_mul_left_of_dvd ?_ n
    rw [hone]
    refine spacing_dvd_two_pow ((Nat.log2_lt ?_).2 ?_)
    · exact Nat.mul_ne_zero hzero (Nat.ne_of_gt (Nat.two_pow_pos places))
    · rw [Nat.pow_add, Nat.mul_comm]
      exact Nat.mul_lt_mul_of_pos_left hlt (Nat.two_pow_pos places)
  · have hpow : n * one = 2 ^ (precision + places) := by rw [heq, hone, Nat.pow_add]
    rw [hpow]
    exact spacing_dvd_of_log2_le Nat.log2_two_pow.le

/-- A whole number of at most 53 binary places is its own nearest number, and the next one is. -/
theorem nearest?_intCast {n : Int} (h : n.natAbs ≤ 2 ^ precision) :
    nearest? (n : ℚ) = some (n * one) := by
  have hunits : nearestUnits (n : ℚ) = n.natAbs * one := by
    rw [nearestUnits, Rat.num_intCast, Rat.den_intCast, roundUnits_of_dvd (spacing_dvd_mul_one h)]
  have hlt : |(n : ℚ)| < overflow := by
    have hlt : n.natAbs < overflow := h.trans_lt (by decide +kernel)
    rw [← Int.cast_abs, ← Nat.cast_natAbs]
    exact_mod_cast hlt
  have hsigned : signed (decide ((n : ℚ) < 0)) (n.natAbs * one) = n * one := by
    by_cases hneg : n < 0
    · have hcast : (n : ℚ) < 0 := by exact_mod_cast hneg
      rw [signed, if_pos (decide_eq_true hcast), Nat.cast_mul, Int.ofNat_natAbs_of_nonpos hneg.le,
        Int.neg_mul, Int.neg_neg]
    · have hcast : ¬ (n : ℚ) < 0 := by exact_mod_cast hneg
      rw [signed, if_neg (by simpa using hcast), Nat.cast_mul,
        Int.natAbs_of_nonneg (Int.not_lt.1 hneg)]
  rw [nearest?_eq, if_pos hlt, hunits, hsigned]

end Binary64

/-! ## Decimal numbers -/

namespace Decimal

/-- The size of a decimal number. -/
def size (d : Decimal) : ℚ := d.significand * 10 ^ d.exponent

/-- The value of a decimal number. -/
def value (d : Decimal) : ℚ := if d.negative then -d.size else d.size

end Decimal

namespace Binary64

/-- A power of ten with a positive or negative exponent, as a ratio. -/
theorem zpow_ten_mul (e : Int) : (10 : ℚ) ^ e * 10 ^ (-e).toNat = 10 ^ e.toNat := by
  have hten : (10 : ℚ) ≠ 0 := by norm_num
  rw [← zpow_natCast, ← zpow_natCast, ← zpow_add₀ hten]
  congr 1
  omega

/-- Less than half a unit is rounded to zero. -/
theorem ofRatio_eq_zero (negative : Bool) (h : 2 * num < den) :
    ofRatio negative num den = finite negative 0 := by
  have hlimit : 0 < limit := by decide +kernel
  simp only [ofRatio, roundUnits_eq_zero h, if_pos hlimit]

/-- What is not below the overflow is rounded beyond every finite number. -/
theorem ofRatio_eq_infinite (negative : Bool) (hden : 0 < den) (h : overflow * one * den ≤ num) :
    ofRatio negative num den = infinite negative := by
  have hlimit : ¬ roundUnits num den < limit := fun hlt =>
    absurd ((roundUnits_lt_limit_iff hden).1 hlt) (not_lt.2 h)
  simp only [ofRatio, if_neg hlimit]

/-- A decimal number is rounded as a ratio. Where the exponent and the length of the significand
decide, the ratio is beyond the overflow, or less than half a unit. -/
theorem ofDecimal_eq (d : Decimal) :
    ofDecimal d = ofRatio d.negative (d.significand * 10 ^ d.exponent.toNat * one)
      (10 ^ (-d.exponent).toNat) := by
  unfold ofDecimal
  split_ifs with hzero hlarge hsmall hwhole
  · rw [hzero, Nat.zero_mul, Nat.zero_mul, ofRatio_eq_zero]
    positivity
  · -- Ten to the 310th is beyond the overflow.
    have hexponent : (-d.exponent).toNat = 0 := by omega
    rw [hexponent, Nat.pow_zero, ofRatio_eq_infinite _ Nat.one_pos]
    have hten : 10 ^ 310 ≤ 10 ^ d.exponent.toNat :=
      pow_le_pow_right₀ (by decide) (by omega)
    calc overflow * one * 1 ≤ 1 * 10 ^ 310 * one := by decide +kernel
      _ ≤ d.significand * 10 ^ d.exponent.toNat * one :=
        Nat.mul_le_mul_right _ (Nat.mul_le_mul (Nat.pos_of_ne_zero hzero) hten)
  · -- With `n` binary places, the significand over ten to the power `n + 330` is less than half a
    -- unit.
    have hexponent : d.exponent.toNat = 0 := by omega
    rw [hexponent, Nat.pow_zero, Nat.mul_one, ofRatio_eq_zero]
    generalize hplaces : d.significand.log2 + 1 = n
    have hlt : d.significand < 2 ^ n := hplaces ▸ Nat.lt_log2_self
    calc 2 * (d.significand * one) < 2 * (2 ^ n * one) :=
          Nat.mul_lt_mul_of_pos_left (Nat.mul_lt_mul_of_pos_right hlt one_pos) Nat.two_pos
      _ = 2 ^ n * (2 * one) := by ring
      _ ≤ 10 ^ n * 10 ^ 330 := by
          refine Nat.mul_le_mul (Nat.pow_le_pow_left (by decide) n) ?_
          decide +kernel
      _ = 10 ^ (n + 330) := (pow_add 10 n 330).symm
      _ ≤ 10 ^ (-d.exponent).toNat := pow_le_pow_right₀ (by decide) (by omega)
  · have hexponent : (-d.exponent).toNat = 0 := by omega
    rw [hexponent]
    rfl
  · have hexponent : d.exponent.toNat = 0 := by omega
    rw [hexponent, Nat.pow_zero, Nat.mul_one]
    rfl

/-- A decimal number is read as the floating point number nearest to its value. -/
theorem units?_ofDecimal (d : Decimal) : (ofDecimal d).units? = nearest? d.value := by
  have hnonneg : 0 ≤ d.size := by
    unfold Decimal.size
    positivity
  rw [ofDecimal_eq]
  refine units?_ofRatio_eq_nearest? d.negative (by positivity) hnonneg ?_
  push_cast
  rw [← zpow_ten_mul, Decimal.size]
  ring

end Binary64

end RequiredFields
