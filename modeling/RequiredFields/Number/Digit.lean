/-!
# Digits

The values of octal, decimal and hexadecimal digits, the numbers that digits write, and the whole
numbers of 64 bits.
-/

namespace RequiredFields

namespace Digit

/-- The value of a decimal digit. -/
def value (c : Char) : Nat := c.toNat - 48

/-- The value of a character that is an octal digit. -/
def octal? (c : Char) : Option Nat :=
  if '0' ≤ c ∧ c ≤ '7' then some (value c) else none

/-- The value of a character that is a decimal digit. -/
def decimal? (c : Char) : Option Nat :=
  if c.isDigit then some (value c) else none

/-- The value of a character that is a hexadecimal digit, in either case. -/
def hex? (c : Char) : Option Nat :=
  if c.isDigit then some (value c)
  else if 'a' ≤ c ∧ c ≤ 'f' then some (c.toNat - 87)
  else if 'A' ≤ c ∧ c ≤ 'F' then some (c.toNat - 55)
  else none

/-- The number that a run of decimal digits writes. -/
def natOf (digits : List Char) : Nat :=
  digits.foldl (fun n c => 10 * n + value c) 0

/-- The number that a text of digits of the given base writes. -/
def natOf? (base : Nat) (digit? : Char → Option Nat) (digits : List Char) : Option Nat :=
  digits.foldlM (fun n c => (digit? c).map (base * n + ·)) 0

end Digit

/-- The greatest number of 64 bits. -/
def maxUnsigned : Nat := 18446744073709551615

/-- The greatest number of 64 bits with a sign. -/
def maxSigned : Nat := 9223372036854775807

/-- A sign, if a text starts with one, and the rest; `true` for a minus. -/
def takeSign : List Char → Bool × List Char
  | '-' :: text => (true, text)
  | '+' :: text => (false, text)
  | text => (false, text)

/-- The whole number that a text consists of, an optional sign and digits of the given base, if it
has 64 bits. -/
def integerOfText? (base : Nat) (digit? : Char → Option Nat) (text : List Char) : Option Int := do
  let (negative, digits) := takeSign text
  if digits.isEmpty then none
  let n ← Digit.natOf? base digit? digits
  let value : Int := if negative then -(n : Int) else n
  if -maxSigned - 1 ≤ value ∧ value ≤ maxSigned then some value else none

/-- The decimal whole number of 64 bits that a text consists of. -/
def decimalOfText? (text : List Char) : Option Int :=
  integerOfText? 10 Digit.decimal? text

end RequiredFields
