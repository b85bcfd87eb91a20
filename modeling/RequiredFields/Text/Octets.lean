/-!
# Texts as octets

Reading UTF-8. Octets that are no UTF-8 are cut into the longest pieces that start a character, each
of which is one fault; a reader refuses a text with a fault or puts a replacement character in its
place.
-/

namespace RequiredFields

/-- The content of a file or stream. -/
abbrev Octets := List UInt8

namespace Octets

/-- Whether an octet continues a character. -/
def isTail (b : UInt8) : Bool := 0x80 ≤ b && b ≤ 0xBF

/-- The number of octets that follow a first octet, the least and the greatest that the second may
be, and the bits of the first that count. -/
def lead? (b : UInt8) : Option (Nat × UInt8 × UInt8 × Nat) :=
  if 0xC2 ≤ b && b ≤ 0xDF then some (1, 0x80, 0xBF, b.toNat - 0xC0)
  else if b == 0xE0 then some (2, 0xA0, 0xBF, 0)
  else if b == 0xED then some (2, 0x80, 0x9F, 0xD)
  else if 0xE1 ≤ b && b ≤ 0xEF then some (2, 0x80, 0xBF, b.toNat - 0xE0)
  else if b == 0xF0 then some (3, 0x90, 0xBF, 0)
  else if 0xF1 ≤ b && b ≤ 0xF3 then some (3, 0x80, 0xBF, b.toNat - 0xF0)
  else if b == 0xF4 then some (3, 0x80, 0x8F, 4)
  else none

/-- The code point of a character whose later octets are still missing, and the rest; no character
when the octets break off, then the rest starts at the octet that does not fit. -/
def tails : Nat → Nat → Octets → Option Char × Octets
  | 0, n, rest => (some (Char.ofNat n), rest)
  | _ + 1, _, [] => (none, [])
  | count + 1, n, b :: rest =>
    if isTail b then tails count (n * 64 + (b.toNat - 0x80)) rest else (none, b :: rest)

/-- The first character of a text, or a fault, and the rest. -/
def next (b : UInt8) (rest : Octets) : Option Char × Octets :=
  if b < 0x80 then (some (Char.ofNat b.toNat), rest)
  else
    match lead? b, rest with
    | some (count + 1, low, high, n), c :: rest =>
      if low ≤ c && c ≤ high then tails count (n * 64 + (c.toNat - 0x80)) rest
      else (none, c :: rest)
    | _, rest => (none, rest)

/-- Later octets are taken from the front. -/
theorem length_tails (count n : Nat) (octets : Octets) :
    (tails count n octets).2.length ≤ octets.length := by
  induction octets generalizing count n with
  | nil => cases count <;> simp [tails]
  | cons b rest ih =>
    cases count with
    | zero => simp [tails]
    | succ count =>
      simp only [tails]
      split
      · exact Nat.le_succ_of_le (ih ..)
      · simp

/-- A character takes no octets but its own. -/
theorem length_next (b : UInt8) (rest : Octets) : (next b rest).2.length ≤ rest.length := by
  unfold next
  split
  · simp
  · split
    · split
      · exact Nat.le_succ_of_le (length_tails ..)
      · simp
    · simp

/-- The characters and faults of a text. -/
def decode : Octets → List (Option Char)
  | [] => []
  | b :: rest =>
    have := length_next b rest
    (next b rest).1 :: decode (next b rest).2
termination_by octets => octets.length
decreasing_by simp only [List.length_cons]; omega

/-- The text, if it has no fault. -/
def toText? (octets : Octets) : Option String :=
  (decode octets).mapM id |>.map String.ofList

/-- The text, with a replacement character for every fault. -/
def toTextLossy (octets : Octets) : String :=
  .ofList ((decode octets).map fun c => c.getD '\uFFFD')

/-- The octets without the mark of the encoding that may stand at the start of a file. -/
def withoutMark : Octets → Octets
  | 0xEF :: 0xBB :: 0xBF :: rest => rest
  | octets => octets

/-- The octets of a text. -/
def ofText (text : String) : Octets :=
  text.toUTF8.toList

end Octets

end RequiredFields
