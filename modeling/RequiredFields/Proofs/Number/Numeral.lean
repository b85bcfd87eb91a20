import RequiredFields.Proofs.Number.Nearest

/-!
# Written decimal numbers

A `Numeral` is a decimal number as it is written: an optional sign, digits with an optional point,
at least one of them, and an optional exponent. Its value is what its digits say at their places.
The reader of decimal numbers accepts each (`ofText?_text`) and keeps the value, so a numeral is
read as the floating point number nearest to its value (`units?_ofText?_text`).
-/

namespace RequiredFields

/-- What stands in front of a number. -/
inductive Sign where
  /-- No sign. -/
  | none
  /-- A plus. -/
  | plus
  /-- A minus. -/
  | minus
  deriving DecidableEq, Repr

namespace Sign

/-- The sign as it is written. -/
def text : Sign → List Char
  | none => []
  | plus => ['+']
  | minus => ['-']

/-- Whether the number is negated. -/
def isMinus : Sign → Bool
  | none | plus => false
  | minus => true

end Sign

/-- An exponent as it is written. -/
structure Scale where
  /-- The letter in front. -/
  mark : Char := 'e'
  /-- The sign of the exponent. -/
  sign : Sign := .none
  /-- The digits of the exponent. -/
  digits : List Char
  /-- The letter is an `e` in either case. -/
  mark_eq : mark = 'e' ∨ mark = 'E' := by decide
  /-- There are digits. -/
  digits_ne : digits ≠ [] := by simp
  /-- There is nothing else. -/
  all_isDigit : digits.all Char.isDigit = true := by rfl

namespace Scale

/-- The exponent has no other characters. -/
theorem isDigit (s : Scale) : ∀ c ∈ s.digits, c.isDigit = true :=
  List.all_eq_true.1 s.all_isDigit

/-- The exponent as it is written. -/
def text (s : Scale) : List Char :=
  s.mark :: (s.sign.text ++ s.digits)

/-- The power of ten that the exponent names. -/
def exponent (s : Scale) : Int :=
  signed s.sign.isMinus (Nat.ofDigitChars 10 s.digits 0)

end Scale

/-- A decimal number as it is written. -/
structure Numeral where
  /-- What stands in front. -/
  sign : Sign := .none
  /-- The digits before the point. -/
  whole : List Char
  /-- The digits behind the point, if there is a point. -/
  fraction : Option (List Char) := none
  /-- The exponent, if there is one. -/
  scale : Option Scale := none
  /-- Before the point there are digits only. -/
  whole_all_isDigit : whole.all Char.isDigit = true := by rfl
  /-- Behind the point there are digits only. -/
  fraction_all_isDigit : (fraction.getD []).all Char.isDigit = true := by rfl
  /-- There is a digit on one side of the point. -/
  digits_ne : whole ++ fraction.getD [] ≠ [] := by simp

namespace Numeral

/-- Before the point there are no other characters. -/
theorem whole_isDigit (n : Numeral) : ∀ c ∈ n.whole, c.isDigit = true :=
  List.all_eq_true.1 n.whole_all_isDigit

/-- The point and the digits behind it. -/
def fractionText (n : Numeral) : List Char :=
  match n.fraction with
  | none => []
  | some digits => '.' :: digits

/-- The exponent as it is written. -/
def scaleText (n : Numeral) : List Char :=
  n.scale.elim [] Scale.text

/-- The number as it is written. -/
def text (n : Numeral) : List Char :=
  n.sign.text ++ (n.whole ++ (n.fractionText ++ n.scaleText))

/-- The digits behind the point, none without a point. -/
def places (n : Numeral) : List Char :=
  n.fraction.getD []

/-- The power of ten that the digits are multiplied with. -/
def exponent (n : Numeral) : Int :=
  n.scale.elim 0 Scale.exponent

/-- The number without its sign: the digits before the point, and those behind it as a fraction. -/
def size (n : Numeral) : ℚ :=
  (Nat.ofDigitChars 10 n.whole 0 +
    (Nat.ofDigitChars 10 n.places 0 : ℚ) / 10 ^ n.places.length) * 10 ^ n.exponent

/-- The number that is written. -/
def value (n : Numeral) : ℚ :=
  if n.sign.isMinus then -n.size else n.size

end Numeral

/-! ## Reading -/

/-- A sign is taken from a text, if what follows is not a sign. -/
theorem takeSign_append (s : Sign) {text : List Char}
    (h : ∀ rest, text ≠ '-' :: rest ∧ text ≠ '+' :: rest) :
    takeSign (s.text ++ text) = (s.isMinus, text) := by
  cases s with
  | plus | minus => rfl
  | none =>
    show takeSign text = (false, text)
    rw [takeSign]
    · exact fun rest => (h rest).1
    · exact fun rest => (h rest).2

/-- A digit is no sign. -/
theorem ne_sign_of_isDigit {digits text : List Char} (hne : digits ≠ [])
    (h : ∀ c ∈ digits, c.isDigit = true) (rest : List Char) :
    digits ++ text ≠ '-' :: rest ∧ digits ++ text ≠ '+' :: rest := by
  obtain ⟨c, digits, rfl⟩ := List.exists_cons_of_ne_nil hne
  have hc := h c List.mem_cons_self
  constructor <;> (rintro heq; obtain ⟨rfl, -⟩ := List.cons.inj heq; contradiction)

/-- The digits in front of a text end where something else follows. -/
theorem takeWhile_isDigit_append {digits rest : List Char} (h : ∀ c ∈ digits, c.isDigit = true)
    (hrest : rest.takeWhile Char.isDigit = []) :
    (digits ++ rest).takeWhile Char.isDigit = digits := by
  rw [List.takeWhile_append_of_pos h, hrest, List.append_nil]

/-- What follows the digits in front of a text is left. -/
theorem dropWhile_isDigit_append {digits rest : List Char} (h : ∀ c ∈ digits, c.isDigit = true)
    (hrest : rest.takeWhile Char.isDigit = []) :
    (digits ++ rest).dropWhile Char.isDigit = rest := by
  have hsplit := List.takeWhile_append_dropWhile (p := Char.isDigit) (l := rest)
  rwa [List.dropWhile_append_of_pos h, ← List.nil_append (rest.dropWhile _), ← hrest]

namespace Scale

/-- A written exponent is read. -/
theorem exponent?_text (s : Scale) : Decimal.exponent? s.text = some s.exponent := by
  have hsign : takeSign (s.sign.text ++ s.digits) = (s.sign.isMinus, s.digits) := by
    refine takeSign_append s.sign fun rest => ?_
    have hne : s.digits ++ [] ≠ '-' :: rest ∧ s.digits ++ [] ≠ '+' :: rest :=
      ne_sign_of_isDigit s.digits_ne s.isDigit rest
    rwa [List.append_nil] at hne
  have hdigits : ¬ (s.digits.isEmpty || !s.digits.all Char.isDigit) = true := by
    simpa [s.digits_ne] using s.isDigit
  simp only [text, Decimal.exponent?, if_pos s.mark_eq, hsign, if_neg hdigits]
  rfl

/-- No digit starts a written exponent. -/
theorem takeWhile_text (s : Scale) : s.text.takeWhile Char.isDigit = [] := by
  have hmark : s.mark.isDigit = false := by
    rcases s.mark_eq with h | h <;> rw [h] <;> rfl
  rw [text, List.takeWhile_cons_of_neg (by simp [hmark])]

/-- No point starts a written exponent, whatever follows it. -/
theorem text_append_ne_point (s : Scale) (rest text : List Char) :
    s.text ++ rest ≠ '.' :: text := by
  intro heq
  have hmark := s.mark_eq
  rw [(List.cons.inj heq).1] at hmark
  rcases hmark with hmark | hmark <;> contradiction

end Scale

namespace Numeral

/-- No digit starts the exponent. -/
theorem takeWhile_scaleText (n : Numeral) : n.scaleText.takeWhile Char.isDigit = [] := by
  unfold scaleText
  cases n.scale with
  | none => rfl
  | some s => exact s.takeWhile_text

/-- No digit starts the point and what follows. -/
theorem takeWhile_fractionText (n : Numeral) :
    (n.fractionText ++ n.scaleText).takeWhile Char.isDigit = [] := by
  unfold fractionText
  cases n.fraction with
  | none => exact n.takeWhile_scaleText
  | some digits => rfl

/-- The digits behind the point are read, none without a point. -/
theorem takeFraction_text (n : Numeral) :
    Decimal.takeFraction (n.fractionText ++ n.scaleText) = (n.places, n.scaleText) := by
  have hdigits := List.all_eq_true.1 n.fraction_all_isDigit
  unfold fractionText places
  cases hfraction : n.fraction with
  | none =>
    show Decimal.takeFraction n.scaleText = ([], n.scaleText)
    rw [Decimal.takeFraction]
    -- The reader goes on here only if no point follows.
    intro text htext
    unfold scaleText at htext
    cases hscale : n.scale with
    | none => simp [hscale] at htext
    | some s =>
      rw [hscale] at htext
      have hne := s.text_append_ne_point [] text
      rw [List.append_nil] at hne
      exact hne htext
  | some digits =>
    rw [hfraction, Option.getD_some] at hdigits
    show Decimal.takeFraction ('.' :: (digits ++ n.scaleText)) = (digits, n.scaleText)
    rw [Decimal.takeFraction, takeWhile_isDigit_append hdigits n.takeWhile_scaleText,
      dropWhile_isDigit_append hdigits n.takeWhile_scaleText]

/-- The exponent is read, zero if there is none. -/
theorem exponent?_scaleText (n : Numeral) : Decimal.exponent? n.scaleText = some n.exponent := by
  unfold scaleText exponent
  cases n.scale with
  | none => rfl
  | some s => exact s.exponent?_text

/-- The decimal number that is written, its digits as one whole number. -/
def toDecimal (n : Numeral) : Decimal :=
  ⟨n.sign.isMinus, Digit.natOf (n.whole ++ n.places), n.exponent - n.places.length⟩

/-- A written decimal number is read. -/
theorem ofText?_text (n : Numeral) : Decimal.ofText? n.text = some n.toDecimal := by
  have hsign : takeSign n.text =
      (n.sign.isMinus, n.whole ++ (n.fractionText ++ n.scaleText)) := by
    refine takeSign_append n.sign fun rest => ?_
    by_cases hwhole : n.whole = []
    · -- Without digits before it, the point stands in front.
      have hpoint := n.digits_ne
      rw [hwhole, List.nil_append] at hpoint ⊢
      unfold fractionText
      cases hfraction : n.fraction with
      | none => simp [hfraction] at hpoint
      | some digits => simp
    · exact ne_sign_of_isDigit hwhole n.whole_isDigit rest
  have hwhole := takeWhile_isDigit_append n.whole_isDigit n.takeWhile_fractionText
  have hrest := dropWhile_isDigit_append n.whole_isDigit n.takeWhile_fractionText
  have hne : ¬ (n.whole ++ n.places).isEmpty = true := by
    rw [List.isEmpty_iff]
    exact n.digits_ne
  simp only [Decimal.ofText?, Decimal.unsigned?, hsign, hwhole, hrest, takeFraction_text,
    if_neg hne, exponent?_scaleText]
  rfl

/-- Reading keeps the value. -/
theorem value_toDecimal (n : Numeral) : n.toDecimal.value = n.value := by
  have hten : (10 : ℚ) ≠ 0 := by norm_num
  have hsize : n.toDecimal.size = n.size := by
    have hdigits : Digit.natOf (n.whole ++ n.places) =
        10 ^ n.places.length * Nat.ofDigitChars 10 n.whole 0 + Nat.ofDigitChars 10 n.places 0 := by
      show Nat.ofDigitChars 10 (n.whole ++ n.places) 0 = _
      rw [Nat.ofDigitChars_append, Nat.ofDigitChars_eq_ofDigitChars_zero]
    simp only [Decimal.size, toDecimal, size, hdigits, zpow_sub₀ hten, zpow_natCast]
    push_cast
    field_simp
  rw [Decimal.value, value, hsize]
  rfl

/-- A written decimal number is read as the floating point number nearest to its value. -/
theorem units?_ofText?_text (n : Numeral) :
    (Binary64.ofText? n.text).bind Binary64.units? = Binary64.nearest? n.value := by
  rw [Binary64.ofText?, ofText?_text, ← value_toDecimal]
  exact Binary64.units?_ofDecimal n.toDecimal

end Numeral

end RequiredFields
