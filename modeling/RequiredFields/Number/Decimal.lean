import RequiredFields.Number.Digit

/-!
# Decimal numbers

A decimal number in a text: an optional sign, digits with an optional point and at least one digit
on one side of it, and an optional exponent.
-/

namespace RequiredFields

/-- The number `significand * 10 ^ exponent`, with the sign it was written with. -/
structure Decimal where
  /-- Whether a minus sign stands in front. -/
  negative : Bool
  /-- The digits, without the point. -/
  significand : Nat
  /-- The power of ten that the digits are multiplied with. -/
  exponent : Int
  deriving DecidableEq, Repr

namespace Decimal

/-- The exponent that a text consists of: nothing, or a mark, an optional sign and digits. -/
def exponent? : List Char → Option Int
  | [] => some 0
  | c :: text =>
    if c = 'e' ∨ c = 'E' then
      let (negative, digits) := takeSign text
      if digits.isEmpty || !digits.all Char.isDigit then none
      else some (if negative then -(Digit.natOf digits : Int) else Digit.natOf digits)
    else none

/-- The digits after the point, if there is a point, and the rest. -/
def takeFraction : List Char → List Char × List Char
  | '.' :: text => (text.takeWhile Char.isDigit, text.dropWhile Char.isDigit)
  | text => ([], text)

/-- The number that a text without a sign consists of. -/
def unsigned? (negative : Bool) (text : List Char) : Option Decimal :=
  let whole := text.takeWhile Char.isDigit
  let (fraction, rest) := takeFraction (text.dropWhile Char.isDigit)
  if (whole ++ fraction).isEmpty then none
  else
    (exponent? rest).map fun e =>
      ⟨negative, Digit.natOf (whole ++ fraction), e - fraction.length⟩

/-- The decimal number that a text consists of. -/
def ofText? (text : List Char) : Option Decimal :=
  let (negative, digits) := takeSign text
  unsigned? negative digits

end Decimal

end RequiredFields
