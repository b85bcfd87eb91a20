import Mathlib
import RequiredFields.Number.Binary64

/-!
# Rounding to binary places

`roundHalfEven` goes to the nearer of the whole numbers at both sides of a ratio
(`roundHalfEven_cases`), so no whole number comes to stand on the other side
(`le_roundHalfEven`, `roundHalfEven_le`) and the order is kept. `roundUnits` does the same on grids
that get coarser with the size of the number. It keeps the order too (`roundUnits_le_roundUnits`):
within one grid `roundHalfEven` does, and between two of them stands a power of two, which is on
both. Ratios are compared without division, by the products of the one's numerator and the other's
denominator, so that equal ratios are rounded to the same number in whatever terms they are written.
-/

namespace RequiredFields.Binary64

variable {num num' den den' m : Nat}

/-! ## To whole numbers -/

/-- Rounding goes down or up, towards the nearer side. -/
theorem roundHalfEven_cases (num den : Nat) :
    roundHalfEven num den = num / den ∧ 2 * (num % den) ≤ den ∨
      roundHalfEven num den = num / den + 1 ∧ den ≤ 2 * (num % den) := by
  simp only [roundHalfEven]
  split_ifs <;> omega

/-- The rounded number is at most a half too great. -/
theorem two_mul_roundHalfEven_le (num den : Nat) :
    2 * (roundHalfEven num den * den) ≤ 2 * num + den := by
  have hdiv := Nat.div_add_mod' num den
  rcases roundHalfEven_cases num den with ⟨h, hmod⟩ | ⟨h, hmod⟩
  · rw [h]
    omega
  · rw [h, Nat.add_mul]
    omega

/-- A ratio less than a half above a whole number is not rounded above it. -/
theorem roundHalfEven_le_of_lt (h : 2 * num < (2 * m + 1) * den) : roundHalfEven num den ≤ m := by
  have hnear := two_mul_roundHalfEven_le num den
  by_contra hlt
  have hle : (m + 1) * den ≤ roundHalfEven num den * den := Nat.mul_le_mul_right den (by omega)
  rw [Nat.add_mul] at hle h
  rw [Nat.mul_assoc] at h
  omega

/-- A ratio that is not above a whole number is not rounded above it. -/
theorem roundHalfEven_le (hden : 0 < den) (h : num ≤ m * den) : roundHalfEven num den ≤ m := by
  refine roundHalfEven_le_of_lt ?_
  rw [Nat.add_mul, Nat.mul_assoc]
  omega

/-- A ratio that is not below a whole number is not rounded below it. -/
theorem le_roundHalfEven (hden : 0 < den) (h : m * den ≤ num) : m ≤ roundHalfEven num den := by
  have hle := (Nat.le_div_iff_mul_le hden).2 h
  rcases roundHalfEven_cases num den with ⟨hround, -⟩ | ⟨hround, -⟩ <;> omega

/-- Rounding keeps the order. -/
theorem roundHalfEven_le_roundHalfEven (hden : 0 < den) (h : num ≤ num') :
    roundHalfEven num den ≤ roundHalfEven num' den := by
  rcases (Nat.div_le_div_right (c := den) h).lt_or_eq with hlt | heq
  · -- A whole number stands between the two.
    calc roundHalfEven num den ≤ num / den + 1 := by
          rcases roundHalfEven_cases num den with ⟨hround, -⟩ | ⟨hround, -⟩ <;> omega
      _ ≤ num' / den := hlt
      _ ≤ roundHalfEven num' den := le_roundHalfEven hden (Nat.div_mul_le_self num' den)
  · have hdiv := Nat.div_add_mod' num den
    have hdiv' := Nat.div_add_mod' num' den
    have hmod : num % den ≤ num' % den := by
      rw [heq] at hdiv
      omega
    simp only [roundHalfEven, heq]
    split_ifs <;> omega

/-- Rounding depends on the ratio alone. -/
theorem roundHalfEven_mul_left {k : Nat} (hk : 0 < k) (num den : Nat) :
    roundHalfEven (k * num) (k * den) = roundHalfEven num den := by
  have hmod : 2 * (k * (num % den)) = k * (2 * (num % den)) := Nat.mul_left_comm 2 k _
  simp only [roundHalfEven, Nat.mul_div_mul_left _ _ hk, Nat.mul_mod_mul_left, hmod,
    Nat.mul_lt_mul_left hk]

/-! ## To the grid of a number's size -/

/-- A greater number does not have fewer binary places. -/
theorem log2_le_log2 {a b : Nat} (h : a ≤ b) : a.log2 ≤ b.log2 := by
  rw [Nat.log2_eq_log_two, Nat.log2_eq_log_two]
  exact Nat.log_mono_right h

/-- The greatest power of two that a number reaches. -/
theorem log2_eq_of_lt {n e : Nat} (hle : 2 ^ e ≤ n) (hlt : n < 2 ^ (e + 1)) : n.log2 = e :=
  (Nat.log2_eq_iff (Nat.ne_of_gt ((Nat.two_pow_pos e).trans_le hle))).2 ⟨hle, hlt⟩

/-- The grid has powers of two as its spacing. -/
theorem spacing_eq (units : Nat) : spacing units = 2 ^ (units.log2 + 1 - precision) := rfl

/-- The spacing is not zero. -/
theorem spacing_pos (units : Nat) : 0 < spacing units :=
  Nat.two_pow_pos _

/-- A power of two with few binary places less than a number is on the number's grid. -/
theorem spacing_dvd_two_pow {units e : Nat} (h : units.log2 < e + precision) :
    spacing units ∣ 2 ^ e := by
  rw [spacing_eq]
  exact Nat.pow_dvd_pow 2 (by omega)

/-- A power of two that is not below a number is on the number's grid. -/
theorem spacing_dvd_of_log2_le {units e : Nat} (h : units.log2 ≤ e) : spacing units ∣ 2 ^ e :=
  spacing_dvd_two_pow (h.trans_lt (Nat.lt_add_of_pos_right (by decide)))

/-- A number on its own grid is left alone. -/
theorem roundUnits_of_dvd {units : Nat} (h : spacing units ∣ units) :
    roundUnits units 1 = units := by
  obtain ⟨k, hk⟩ := h
  have hg := spacing_pos units
  have hround : roundHalfEven units (spacing units) = k := by
    have hk' : units = k * spacing units := by rw [Nat.mul_comm, ← hk]
    exact Nat.le_antisymm (roundHalfEven_le hg hk'.le) (le_roundHalfEven hg hk'.ge)
  rw [roundUnits, Nat.div_one, Nat.one_mul, hround, Nat.mul_comm, ← hk]

/-- A ratio less than half a unit is rounded to zero. -/
theorem roundUnits_eq_zero (h : 2 * num < den) : roundUnits num den = 0 := by
  have hdiv : num / den = 0 := Nat.div_eq_of_lt (by omega)
  have hround : roundHalfEven num den ≤ 0 := roundHalfEven_le_of_lt (by omega)
  have hspacing : spacing 0 = 1 := rfl
  rw [roundUnits, hdiv, hspacing, Nat.mul_one, Nat.mul_one, Nat.le_zero.1 hround]

/-- A ratio below a power of two is not rounded above it. -/
theorem roundUnits_le_two_pow {e : Nat} (hden : 0 < den) (h : num < 2 ^ e * den) :
    roundUnits num den ≤ 2 ^ e := by
  have hlt : num / den < 2 ^ e := (Nat.div_lt_iff_lt_mul hden).2 h
  have hlog : (num / den).log2 ≤ e := by
    have hmono : (num / den).log2 ≤ (2 ^ e).log2 := log2_le_log2 hlt.le
    rwa [Nat.log2_two_pow] at hmono
  obtain ⟨k, hk⟩ := spacing_dvd_of_log2_le hlog
  have hround : roundHalfEven num (den * spacing (num / den)) ≤ k := by
    refine roundHalfEven_le (Nat.mul_pos hden (spacing_pos _)) ?_
    calc num ≤ 2 ^ e * den := h.le
      _ = k * (den * spacing (num / den)) := by rw [hk]; ring
  calc roundUnits num den ≤ k * spacing (num / den) := Nat.mul_le_mul_right _ hround
    _ = 2 ^ e := by rw [hk, Nat.mul_comm]

/-- A ratio that is not below a power of two is not rounded below it. -/
theorem two_pow_le_roundUnits {e : Nat} (hden : 0 < den) (h : 2 ^ e * den ≤ num) :
    2 ^ e ≤ roundUnits num den := by
  have hle : 2 ^ e ≤ num / den := (Nat.le_div_iff_mul_le hden).2 h
  have hne : num / den ≠ 0 := by
    have := Nat.two_pow_pos e
    omega
  -- The greatest power of two that the ratio reaches is on its grid.
  obtain ⟨k, hk⟩ := spacing_dvd_of_log2_le (le_refl (num / den).log2)
  have hround : k ≤ roundHalfEven num (den * spacing (num / den)) := by
    refine le_roundHalfEven (Nat.mul_pos hden (spacing_pos _)) ?_
    calc k * (den * spacing (num / den)) = 2 ^ (num / den).log2 * den := by rw [hk]; ring
      _ ≤ num / den * den := Nat.mul_le_mul_right _ (Nat.log2_self_le hne)
      _ ≤ num := Nat.div_mul_le_self num den
  calc 2 ^ e ≤ 2 ^ (num / den).log2 :=
        Nat.pow_le_pow_right (by omega) ((Nat.le_log2 hne).2 hle)
    _ = k * spacing (num / den) := by rw [hk, Nat.mul_comm]
    _ ≤ roundUnits num den := Nat.mul_le_mul_right _ hround

/-- Rounding keeps the order of ratios with one denominator. -/
theorem roundUnits_le_of_le (hden : 0 < den) (h : num ≤ num') :
    roundUnits num den ≤ roundUnits num' den := by
  have hdiv : num / den ≤ num' / den := Nat.div_le_div_right h
  by_cases hlog : (num' / den).log2 ≤ (num / den).log2
  · -- Both are on the same grid.
    have hspacing : spacing (num / den) = spacing (num' / den) := by
      rw [spacing_eq, spacing_eq, Nat.le_antisymm (log2_le_log2 hdiv) hlog]
    rw [roundUnits, roundUnits, hspacing]
    exact Nat.mul_le_mul_right _
      (roundHalfEven_le_roundHalfEven (Nat.mul_pos hden (spacing_pos _)) h)
  · -- The power of two that the greater one reaches stands between them.
    rw [not_le] at hlog
    have hne : num' / den ≠ 0 := by
      intro hzero
      simp [hzero] at hlog
    have hlow : num / den < 2 ^ (num' / den).log2 := by
      rw [Nat.log2_eq_log_two] at hlog
      exact Nat.lt_pow_of_log_lt Nat.one_lt_two hlog
    have hhigh := Nat.log2_self_le hne
    exact (roundUnits_le_two_pow hden ((Nat.div_lt_iff_lt_mul hden).1 hlow)).trans
      (two_pow_le_roundUnits hden ((Nat.le_div_iff_mul_le hden).1 hhigh))

/-- Rounding depends on the ratio alone. -/
theorem roundUnits_mul_left {k : Nat} (hk : 0 < k) (num den : Nat) :
    roundUnits (k * num) (k * den) = roundUnits num den := by
  simp only [roundUnits, Nat.mul_div_mul_left _ _ hk, Nat.mul_assoc, roundHalfEven_mul_left hk]

/-- Rounding keeps the order of ratios. -/
theorem roundUnits_le_roundUnits (hden : 0 < den) (hden' : 0 < den')
    (h : num * den' ≤ num' * den) : roundUnits num den ≤ roundUnits num' den' := by
  calc roundUnits num den = roundUnits (den' * num) (den' * den) :=
        (roundUnits_mul_left hden' num den).symm
    _ ≤ roundUnits (den * num') (den' * den) := by
        refine roundUnits_le_of_le (Nat.mul_pos hden' hden) ?_
        rwa [Nat.mul_comm den' num, Nat.mul_comm den num']
    _ = roundUnits num' den' := by
        rw [Nat.mul_comm den' den, roundUnits_mul_left hden]

/-- Ratios of the same value are rounded to the same number. -/
theorem roundUnits_congr (hden : 0 < den) (hden' : 0 < den') (h : num * den' = num' * den) :
    roundUnits num den = roundUnits num' den' :=
  Nat.le_antisymm (roundUnits_le_roundUnits hden hden' h.le)
    (roundUnits_le_roundUnits hden' hden h.ge)

end RequiredFields.Binary64
