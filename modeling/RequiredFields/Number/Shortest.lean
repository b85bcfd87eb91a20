import RequiredFields.Number.Binary64

/-!
# The shortest decimal text of a floating point number

A floating point number is written with the fewest significant digits that read back as the same
number; among the texts of that length the nearest one is taken, and the one with an even last digit
among two equally near. `Shortest.digits` decides the digits in exact arithmetic; `positional` and
`mixed` are two ways to set them.
-/

namespace RequiredFields.Binary64

/-- A decimal number as significant digits, the last of them not zero, and a power of ten. -/
structure Shortest where
  /-- The significant digits as one number. -/
  significand : Nat
  /-- The power of ten of the last digit. -/
  exponent : Int
  deriving DecidableEq, Repr

namespace Shortest

/-- The number of digits before the decimal point of `units` units; zero or negative when the first
significant digit stands behind the point. -/
def pointOf (units : Nat) : Int :=
  (Nat.toDigits 10 (units * Nat.pow 10 1100 / one)).length - 1100

/-- `num / den` is the power of ten with exponent `e`, in units. -/
def powerOfTen (e : Int) : Nat × Nat :=
  if 0 ≤ e then (Nat.pow 10 e.toNat * one, 1) else (one, Nat.pow 10 (-e).toNat)

/-- Whether `c * num / den` units round to `units` units. The gap below a power of two is half the
gap above it, and the ends count when the significand is even. -/
def readsBack (units c num den : Nat) : Bool :=
  let g := spacing units
  -- All bounds are taken four times, so that a quarter of the gap is a whole number.
  let low := 4 * units - (if 1 < g && units == Nat.pow 2 units.log2 then g else 2 * g)
  let high := 4 * units + 2 * g
  let x := 4 * c * num
  if units / g % 2 = 0 then low * den ≤ x && x ≤ high * den else low * den < x && x < high * den

/-- The multiple of `10 ^ e` nearest to `units` units among the two neighbours that read back. -/
def onGrid? (units : Nat) (e : Int) : Option Nat :=
  let (num, den) := powerOfTen e
  -- The two neighbours are `below` and `below + 1`; the nearer one is tried first.
  let below := units * den / num
  let nearer := roundHalfEven (units * den) num
  let other := if nearer = below then below + 1 else below
  if readsBack units nearer num den then some nearer
  else if readsBack units other num den then some other
  else none

/-- Moves trailing zeros of the digits, at most `fuel` of them, into the exponent. -/
def dropZeros : Nat → Nat → Int → Shortest
  | 0, significand, e => ⟨significand, e⟩
  | fuel + 1, significand, e =>
    if significand % 10 = 0 then dropZeros fuel (significand / 10) (e + 1) else ⟨significand, e⟩

/-- The first of the grids with `count`, `count + 1`, … digits that has a number which reads back;
seventeen digits are always enough. -/
def search (units : Nat) (point : Int) : Nat → Nat → Shortest
  | 0, count =>
    let (num, den) := powerOfTen (point - count)
    dropZeros 20 (units * den / num) (point - count)
  | fuel + 1, count =>
    match onGrid? units (point - count) with
    | some significand => dropZeros 20 significand (point - count)
    | none => search units point fuel (count + 1)

end Shortest

/-- The shortest digits of `units` units. -/
def shortest (units : Nat) : Shortest :=
  Shortest.search units (Shortest.pointOf units) 17 1

/-- The digits of a number in decimal. -/
def decimalDigits (n : Nat) : List Char :=
  Nat.toDigits 10 n

/-- A minus sign for negative numbers. -/
def signText (negative : Bool) : List Char :=
  if negative then ['-'] else []

/-- Digits with the point after the first `point` of them; zeros fill what lies between the digits
and the point. A number without a fraction ends with `whole`. -/
def setPoint (digits : List Char) (point : Int) (whole : List Char) : List Char :=
  if digits.length ≤ point then
    digits ++ List.replicate (point - digits.length).toNat '0' ++ whole
  else if 0 < point then digits.take point.toNat ++ '.' :: digits.drop point.toNat
  else '0' :: '.' :: List.replicate (-point).toNat '0' ++ digits

/-- The number without an exponent, however long, and without a fraction that is zero. -/
def positional : Binary64 → String
  | finite negative 0 => .ofList (signText negative ++ ['0'])
  | finite negative units =>
    let s := shortest units
    let digits := decimalDigits s.significand
    .ofList (signText negative ++ setPoint digits (digits.length + s.exponent) [])
  | infinite negative => .ofList (signText negative ++ ['i', 'n', 'f'])
  | nan => "NaN"

/-- The number without an exponent from `1e-5` up to `1e16`, then with a fraction that may be zero;
otherwise with one digit before the point and an exponent. -/
def mixed : Binary64 → String
  | finite negative 0 => .ofList (signText negative ++ ['0', '.', '0'])
  | finite negative units =>
    let s := shortest units
    let digits := decimalDigits s.significand
    let point : Int := digits.length + s.exponent
    if -5 < point ∧ point ≤ 16 then
      .ofList (signText negative ++ setPoint digits point ['.', '0'])
    else
      let e := point - 1
      let mantissa :=
        match digits with
        | first :: second :: rest => first :: '.' :: second :: rest
        | digits => digits
      .ofList (signText negative ++ mantissa ++ 'e' :: signText (e < 0) ++ decimalDigits e.natAbs)
  | infinite negative => .ofList (signText negative ++ ['i', 'n', 'f'])
  | nan => "NaN"

end RequiredFields.Binary64
