import RequiredFields.Proofs.Comparison.Order
import RequiredFields.Proofs.Number.Numeral

/-!
# The comparison of decimal numbers

A text that, apart from blanks, is a written decimal number is compared by the floating point number
nearest to its value (`number?_of_text`), so by its value alone, however it is spelled. Below the
overflow the comparison does not contradict that of the values (`compare_decimals`): rounding may
make different values equal, but does not turn them around. From the overflow on there is no finite
number to compare, and both texts are ordered by their characters, which says nothing about the
values (`compare_overflow`).
-/

namespace RequiredFields.Comparison

open Text

variable {c : Comparison} {left right : String} {m n : Numeral}

/-- A decimal number between blanks is read as the floating point number nearest to its value. -/
theorem number?_of_text {text : String} (h : trim text.toList = n.text) :
    number? text = Binary64.nearest? n.value := by
  rw [number?, h, Numeral.units?_ofText?_text]

/-- From the overflow on a decimal number is no finite number. -/
theorem isNumber_of_overflow {text : String} (h : trim text.toList = n.text)
    (hoverflow : (Binary64.overflow : ℚ) ≤ |n.value|) : isNumber text = false := by
  rw [isNumber, number?_of_text h, Binary64.nearest?_eq_none_iff.2 hoverflow]
  rfl

/-- The comparison of two decimal numbers does not contradict the order of their values, if both are
below the overflow: equal values are equal, however they are written, and of two others the smaller
one is not greater. If one of them is not below the overflow, their texts are compared. -/
theorem compare_decimals (hc : c.numeric = true) (hleft : trim left.toList = m.text)
    (hright : trim right.toList = n.text) :
    (|m.value| < Binary64.overflow ∧ |n.value| < Binary64.overflow →
      (m.value = n.value → c.compare left right = .eq) ∧
      (m.value < n.value → c.compare left right ≠ .gt) ∧
      (n.value < m.value → c.compare left right ≠ .lt)) ∧
    ((Binary64.overflow : ℚ) ≤ |m.value| ∨ (Binary64.overflow : ℚ) ≤ |n.value| →
      c.compare left right = Text.compare left.toList right.toList) := by
  constructor
  · rintro ⟨hm, hn⟩
    obtain ⟨x, hx⟩ := Binary64.exists_nearest? hm
    obtain ⟨y, hy⟩ := Binary64.exists_nearest? hn
    rw [compare_of_numbers hc ((number?_of_text hleft).trans hx)
      ((number?_of_text hright).trans hy), compareInt_eq]
    refine ⟨fun heq => ?_, fun hlt => ?_, fun hgt => ?_⟩
    · rw [heq, hy] at hx
      exact compare_eq_iff_eq.2 (Option.some.inj hx).symm
    · have hle : x ≤ y := Binary64.le_of_nearest? hx hy hlt.le
      rw [ne_eq, compare_gt_iff_gt]
      omega
    · have hle : y ≤ x := Binary64.le_of_nearest? hy hx hgt.le
      rw [ne_eq, compare_lt_iff_lt]
      omega
  · intro h
    exact compare_of_text (.inr (h.imp (isNumber_of_overflow hleft) (isNumber_of_overflow hright)))

/-- Two numbers that no floating point number tells apart, and two spellings of one number. -/
theorem compare_decimals_spellings :
    (∃ m n : Numeral, (trim "9007199254740992".toList = m.text ∧
        trim " +9007199254740993.0 ".toList = n.text) ∧
      (|m.value| < Binary64.overflow ∧ |n.value| < Binary64.overflow) ∧ m.value < n.value ∧
      compare ⟨true⟩ "9007199254740992" " +9007199254740993.0 " ≠ .gt) ∧
    ∃ m n : Numeral, (trim "-.5E1".toList = m.text ∧ trim "-005".toList = n.text) ∧
      (|m.value| < Binary64.overflow ∧ |n.value| < Binary64.overflow) ∧ m.value = n.value ∧
      compare ⟨true⟩ "-.5E1" "-005" = .eq := by
  constructor
  · let m : Numeral := { whole := "9007199254740992".toList }
    let n : Numeral :=
      { sign := .plus, whole := "9007199254740993".toList, fraction := some ['0'] }
    have htext : trim "9007199254740992".toList = m.text ∧
        trim " +9007199254740993.0 ".toList = n.text := by decide +kernel
    have hfinite : |m.value| < Binary64.overflow ∧ |n.value| < Binary64.overflow := by
      decide +kernel
    have hlt : m.value < n.value := by decide +kernel
    have hcompare := (compare_decimals rfl htext.1 htext.2).1 hfinite
    exact ⟨m, n, htext, hfinite, hlt, hcompare.2.1 hlt⟩
  · let m : Numeral :=
      { sign := .minus, whole := [], fraction := some ['5'],
        scale := some { mark := 'E', digits := ['1'] } }
    let n : Numeral := { sign := .minus, whole := "005".toList }
    have htext : trim "-.5E1".toList = m.text ∧ trim "-005".toList = n.text := by decide +kernel
    have hfinite : |m.value| < Binary64.overflow ∧ |n.value| < Binary64.overflow := by
      decide +kernel
    have heq : m.value = n.value := by decide +kernel
    have hcompare := (compare_decimals rfl htext.1 htext.2).1 hfinite
    exact ⟨m, n, htext, hfinite, heq, hcompare.1 heq⟩

/-- The comparison contradicts that of the values beyond the overflow: of two spellings of one
number one is greater, and nine is greater than a number of four hundred digits. -/
theorem compare_overflow :
    (∃ m n : Numeral, (trim "1e400".toList = m.text ∧ trim "10e399".toList = n.text) ∧
      m.value = n.value ∧ compare ⟨true⟩ "1e400" "10e399" = .gt) ∧
    ∃ m n : Numeral, (trim "9".toList = m.text ∧ trim "1e400".toList = n.text) ∧
      m.value < n.value ∧ compare ⟨true⟩ "9" "1e400" = .gt := by
  let nine : Numeral := { whole := "9".toList }
  let great : Numeral := { whole := "1".toList, scale := some { digits := "400".toList } }
  let other : Numeral := { whole := "10".toList, scale := some { digits := "399".toList } }
  constructor
  · exact ⟨great, other, by decide +kernel, by decide +kernel, by decide +kernel⟩
  · exact ⟨nine, great, by decide +kernel, by decide +kernel, by decide +kernel⟩

end RequiredFields.Comparison
