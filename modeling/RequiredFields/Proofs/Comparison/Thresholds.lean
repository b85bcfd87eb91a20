import RequiredFields.Proofs.Comparison.Decimals
import RequiredFields.Proofs.Comparison.Opposites

/-!
# Whole numbers as thresholds

A whole number is written with an optional sign, any zeros in front, and a point with zeros behind
if at all (`WritesInteger`). Up to `2 ^ 53` in size it is a floating point number itself, so nothing
is lost when it is read (`number?_of_writesInteger`): the comparison of two such texts is that of
the numbers, and so is each range operator with one as its literal (`compare_integers`).
-/

namespace RequiredFields

open Text

namespace Numeral

/-- A whole number as it is written, with zeros in front and perhaps a point with zeros behind. -/
def integer (sign : Sign) (zeros n : Nat) (places : Option Nat) : Numeral where
  sign := sign
  whole := List.replicate zeros '0' ++ Nat.toDigits 10 n
  fraction := places.map (List.replicate · '0')
  whole_all_isDigit := by
    have hzeros : (List.replicate zeros '0').all Char.isDigit = true :=
      List.all_eq_true.2 fun c hc => List.eq_of_mem_replicate hc ▸ rfl
    have hdigits : (Nat.toDigits 10 n).all Char.isDigit = true :=
      List.all_eq_true.2 fun c hc => Nat.isDigit_of_mem_toDigits (by decide) (by decide) hc
    rw [List.all_append, hzeros, hdigits]
    rfl
  fraction_all_isDigit := by
    cases places with
    | none => rfl
    | some count => exact List.all_eq_true.2 fun c hc => List.eq_of_mem_replicate hc ▸ rfl
  digits_ne := by simp [Nat.toDigits_ne_nil]

/-- Zeros in front and behind do not change the whole number. -/
theorem value_integer (sign : Sign) (zeros n : Nat) (places : Option Nat) :
    (integer sign zeros n places).value = (signed sign.isMinus n : ℚ) := by
  have hwhole : Nat.ofDigitChars 10 (integer sign zeros n places).whole 0 = n := by
    rw [integer, Nat.ofDigitChars_append, Nat.ofDigitChars_replicate_zero, Nat.mul_zero,
      Nat.ofDigitChars_ten_toDigits]
  have hplaces : Nat.ofDigitChars 10 (integer sign zeros n places).places 0 = 0 := by
    cases places with
    | none => rfl
    | some count => exact Nat.ofDigitChars_replicate_zero
  have hsize : (integer sign zeros n places).size = n := by
    have hexponent : (integer sign zeros n places).exponent = 0 := rfl
    rw [size, hwhole, hplaces, hexponent]
    simp
  rw [value, hsize, signed]
  push_cast
  rfl

end Numeral

/-- A text consists of an optional sign, zeros, the digits of a number and perhaps a point with
zeros, and these write a whole number. -/
def WritesInteger (text : List Char) (m : Int) : Prop :=
  ∃ (sign : Sign) (zeros n : Nat) (point : List Char),
    (point = [] ∨ ∃ places, point = '.' :: List.replicate places '0') ∧
      text = sign.text ++ (List.replicate zeros '0' ++ Nat.toDigits 10 n ++ point) ∧
      m = signed sign.isMinus n

/-- A written whole number is a written decimal number of the same value. -/
theorem WritesInteger.exists_numeral {text : List Char} {m : Int} (h : WritesInteger text m) :
    ∃ n : Numeral, text = n.text ∧ n.value = m := by
  obtain ⟨sign, zeros, n, point, hpoint, rfl, rfl⟩ := h
  have hend : ∃ places, (Numeral.integer sign zeros n places).fractionText = point := by
    obtain rfl | ⟨places, rfl⟩ := hpoint
    · exact ⟨none, rfl⟩
    · exact ⟨some places, rfl⟩
  obtain ⟨places, hplaces⟩ := hend
  refine ⟨.integer sign zeros n places, ?_, Numeral.value_integer sign zeros n places⟩
  have hscale : (Numeral.integer sign zeros n places).scaleText = [] := rfl
  rw [Numeral.text, hplaces, hscale, List.append_nil, Numeral.integer]

namespace Comparison

variable {c : Comparison} {left right text : String} {m n : Int}

/-- A whole number of at most `2 ^ 53` is read without loss. -/
theorem number?_of_writesInteger (hm : |m| ≤ 2 ^ 53) (h : WritesInteger (trim text.toList) m) :
    number? text = some (m * Binary64.one) := by
  obtain ⟨n, htext, hvalue⟩ := h.exists_numeral
  have hsize : m.natAbs ≤ 2 ^ Binary64.precision := by
    rw [Int.abs_eq_natAbs] at hm
    exact_mod_cast hm
  rw [number?_of_text htext, hvalue, Binary64.nearest?_intCast hsize]

/-- Whole numbers keep their order in units. -/
theorem compareInt_mul_one (m n : Int) :
    compareInt (m * Binary64.one) (n * Binary64.one) = Ord.compare m n := by
  have hone : (0 : Int) < Binary64.one := by exact_mod_cast Binary64.one_pos
  simp only [compareInt, Int.mul_lt_mul_right hone]
  exact compareInt_eq m n

/-- A written number is not the empty text. -/
theorem ne_empty_of_writesInteger (h : WritesInteger (trim text.toList) m) : text ≠ "" := by
  rintro rfl
  obtain ⟨sign, zeros, n, point, -, htext, -⟩ := h
  have hne : Nat.toDigits 10 n ≠ [] := Nat.toDigits_ne_nil
  have hnil : trim "".toList = [] := rfl
  rw [hnil] at htext
  simp_all

/-- A range operator admits a value that is not empty by its order to the first literal. -/
theorem holds_range {op : Operator} (hop : op.isRange = true) (hleft : left ≠ "") (target : String)
    (values : List String) :
    (Condition.comparing target op (right :: values)).holds c (some left) =
      op.admits (c.compare left right) :=
  Condition.satisfies_range_cons hop hleft right values

/-- Written whole numbers of at most `2 ^ 53` in size are compared as the numbers are. So a
condition with a range operator and one of them as its first literal holds of another exactly if the
numbers are in this relation. -/
theorem compare_integers (hc : c.numeric = true) (hm : |m| ≤ 2 ^ 53) (hn : |n| ≤ 2 ^ 53)
    (hleft : WritesInteger (trim left.toList) m) (hright : WritesInteger (trim right.toList) n) :
    ((c.compare left right = .lt ↔ m < n) ∧ (c.compare left right = .eq ↔ m = n) ∧
      (c.compare left right = .gt ↔ m > n)) ∧
    ∀ target values,
      ((Condition.comparing target .lt (right :: values)).holds c (some left) = true ↔ m < n) ∧
      ((Condition.comparing target .le (right :: values)).holds c (some left) = true ↔ m ≤ n) ∧
      ((Condition.comparing target .gt (right :: values)).holds c (some left) = true ↔ m > n) ∧
      ((Condition.comparing target .ge (right :: values)).holds c (some left) = true ↔ m ≥ n) := by
  have hcompare : c.compare left right = Ord.compare m n := by
    rw [compare_of_numbers hc (number?_of_writesInteger hm hleft)
      (number?_of_writesInteger hn hright), compareInt_mul_one]
  have hne := ne_empty_of_writesInteger hleft
  refine ⟨?_, fun target values => ?_⟩
  · rw [hcompare]
    exact ⟨compare_lt_iff_lt, compare_eq_iff_eq, compare_gt_iff_gt⟩
  · rw [holds_range rfl hne, holds_range rfl hne, holds_range rfl hne, holds_range rfl hne,
      hcompare]
    simp only [Operator.admits, beq_iff_eq, bne_iff_ne, ne_eq, compare_lt_iff_lt,
      compare_gt_iff_gt, not_lt, ge_iff_le, gt_iff_lt, and_self]

/-- The greatest threshold with zeros around it and its neighbour are told apart, and zero with a
minus sign is zero. -/
theorem compare_integers_boundary :
    (|(9007199254740992 : Int)| ≤ 2 ^ 53 ∧ |(9007199254740991 : Int)| ≤ 2 ^ 53 ∧
      WritesInteger (trim " 009007199254740992.00".toList) 9007199254740992 ∧
      WritesInteger (trim "+9007199254740991".toList) 9007199254740991 ∧
      compare ⟨true⟩ " 009007199254740992.00" "+9007199254740991" = .gt) ∧
    (WritesInteger (trim "-0".toList) 0 ∧ WritesInteger (trim "0.".toList) 0 ∧
      (Condition.comparing "a" .ge ["0."]).holds ⟨true⟩ (some "-0") = true) := by
  have hgreat : WritesInteger (trim " 009007199254740992.00".toList) 9007199254740992 :=
    ⟨.none, 2, 9007199254740992, ".00".toList, .inr ⟨2, rfl⟩, by decide +kernel, rfl⟩
  have hnext : WritesInteger (trim "+9007199254740991".toList) 9007199254740991 :=
    ⟨.plus, 0, 9007199254740991, [], .inl rfl, by decide +kernel, rfl⟩
  have hminus : WritesInteger (trim "-0".toList) 0 :=
    ⟨.minus, 0, 0, [], .inl rfl, by decide +kernel, rfl⟩
  have hzero : WritesInteger (trim "0.".toList) 0 :=
    ⟨.none, 0, 0, ['.'], .inr ⟨0, rfl⟩, by decide +kernel, rfl⟩
  refine ⟨⟨by norm_num, by norm_num, hgreat, hnext, ?_⟩, hminus, hzero, ?_⟩
  · exact (compare_integers rfl (by norm_num) (by norm_num) hgreat hnext).1.2.2.2 (by norm_num)
  · exact ((compare_integers rfl (by norm_num) (by norm_num) hminus hzero).2 "a" []).2.2.2.2
      (le_refl 0)

end Comparison

end RequiredFields
