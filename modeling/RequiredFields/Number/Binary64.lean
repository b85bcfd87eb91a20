import RequiredFields.Number.Decimal

/-!
# Binary floating point

The numbers of the 64-bit binary floating point format. Every finite one is a whole multiple of the
least positive one, `2 ^ -1074`, so it is kept as that multiple and all arithmetic is exact
arithmetic on natural numbers. Rounding is to nearest, ties to even.
-/

namespace RequiredFields

/-- A 64-bit binary floating point number. -/
inductive Binary64 where
  /-- The number `units * 2 ^ -1074` or its negative; zero has both signs. -/
  | finite (negative : Bool) (units : Nat)
  /-- A number beyond every finite one. -/
  | infinite (negative : Bool)
  /-- Not a number. -/
  | nan
  deriving DecidableEq, Repr

namespace Binary64

/-- The binary places of a significand. -/
def precision : Nat := 53

/-- The units in one. -/
def one : Nat := Nat.pow 2 1074

/-- The least number of units that is beyond every finite number. -/
def limit : Nat := Nat.pow 2 1024 * one

/-- `num / den` rounded to the nearest natural number, a tie to the even one. -/
def roundHalfEven (num den : Nat) : Nat :=
  let q := num / den
  let twice := 2 * (num % den)
  if twice < den then q
  else if den < twice then q + 1
  else if q % 2 = 0 then q else q + 1

/-- The distance between neighbouring floating point numbers around `units` units. -/
def spacing (units : Nat) : Nat :=
  Nat.pow 2 (units.log2 + 1 - precision)

/-- `num / den` units rounded to `precision` binary places. -/
def roundUnits (num den : Nat) : Nat :=
  let g := spacing (num / den)
  roundHalfEven num (den * g) * g

/-- The number nearest to `num / den` units; a number whose rounding reaches the limit is
infinite. -/
def ofRatio (negative : Bool) (num den : Nat) : Binary64 :=
  -- Rounding can carry a number up to the limit, so the limit is checked behind it.
  let units := roundUnits num den
  if units < limit then finite negative units else infinite negative

/-- The number nearest to a decimal number. Exponents far out of range are decided by the number of
binary digits of the significand, so that no power of ten is larger than the answer needs. -/
def ofDecimal (d : Decimal) : Binary64 :=
  if d.significand = 0 then finite d.negative 0
  else if 310 ≤ d.exponent then infinite d.negative
  else if d.exponent + d.significand.log2 + 331 ≤ 0 then finite d.negative 0
  else if 0 ≤ d.exponent then
    ofRatio d.negative (d.significand * Nat.pow 10 d.exponent.toNat * one) 1
  else ofRatio d.negative (d.significand * one) (Nat.pow 10 (-d.exponent).toNat)

/-- Whether two texts are equal up to the case of ASCII letters. -/
def isWord (text : List Char) (word : String) : Bool :=
  text.map Char.toLower == word.toList

/-- The number nearest to what a text says: a decimal number, or the words for infinity and for
what is not a number, in any case. -/
def ofText? (text : List Char) : Option Binary64 :=
  match Decimal.ofText? text with
  | some d => some (ofDecimal d)
  | none =>
    let (negative, word) := takeSign text
    if isWord word "inf" || isWord word "infinity" then some (infinite negative)
    else if isWord word "nan" then some nan
    else none

/-- The number as a multiple of the unit, if it is finite. -/
def units? : Binary64 → Option Int
  | finite negative units => some (if negative then -(units : Int) else units)
  | infinite _ => none
  | nan => none

/-- Whether the number is zero. -/
def isZero : Binary64 → Bool
  | finite _ units => units == 0
  | _ => false

/-- The product of two numbers without their signs, rounded. -/
def scaleUp (negative : Bool) (units factor : Nat) : Binary64 :=
  ofRatio negative (units * factor) one

/-- The quotient of two numbers without their signs, rounded. -/
def scaleDown (negative : Bool) (units divisor : Nat) : Binary64 :=
  ofRatio negative (units * one) divisor

end Binary64

end RequiredFields
