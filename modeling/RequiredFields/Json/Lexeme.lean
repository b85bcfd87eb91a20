import RequiredFields.Json.Refusal

/-!
# The parts of a JSON text

Blanks, words, strings and numbers. A string or number is either kept or skipped: skipping checks
its form alone, so that a string may hold a lone surrogate and a number may be of any size.
-/

namespace RequiredFields.Json

/-- The blanks between the parts of a text. -/
def isBlank (c : Char) : Bool :=
  c == ' ' || c == '\n' || c == '\t' || c == '\r'

/-- The text without the blanks it starts with. -/
def skipBlank (text : List Char) : List Char :=
  text.dropWhile isBlank

/-- The rest of a word, letter by letter. -/
def word : List Char → List Char → Except Refusal (List Char)
  | [], text => .ok text
  | _ :: _, [] => .error .unexpectedEnd
  | w :: letters, c :: text => if w = c then word letters text else .error .malformed

/-! ## Strings -/

/-- The number of octets that a text takes in UTF-8. -/
def octetCount (text : List Char) : Nat :=
  text.foldl (fun n c => n + c.utf8Size) 0

/-- Four hexadecimal digits. A text with fewer than four octets left ends too early. -/
def hexNumber : Reader Nat
  | a :: b :: c :: d :: text =>
    match Digit.hex? a, Digit.hex? b, Digit.hex? c, Digit.hex? d with
    | some a, some b, some c, some d => .ok (((a * 16 + b) * 16 + c) * 16 + d, text)
    | _, _, _, _ => .error .malformed
  | text => if octetCount text < 4 then .error .unexpectedEnd else .error .malformed

/-- The first half of a surrogate pair. -/
def isHighSurrogate (n : Nat) : Bool := 0xD800 ≤ n && n ≤ 0xDBFF

/-- The second half of a surrogate pair. -/
def isLowSurrogate (n : Nat) : Bool := 0xDC00 ≤ n && n ≤ 0xDFFF

/-- The character that a numeric escape stands for, behind its `\u`. A high surrogate needs a low
one in a second escape right behind it. -/
def numericEscape : Reader Char := fun text => do
  let (n, text) ← hexNumber text
  if isLowSurrogate n then .error .malformed
  else if !isHighSurrogate n then .ok (Char.ofNat n, text)
  else
    -- The second half has to be an escape too.
    match text with
    | [] | ['\\'] => .error .unexpectedEnd
    | '\\' :: 'u' :: text =>
      let (low, text) ← hexNumber text
      if isLowSurrogate low then
        .ok (Char.ofNat (0x10000 + (n - 0xD800) * 0x400 + (low - 0xDC00)), text)
      else .error .malformed
    | _ => .error .malformed

/-- The character that a letter behind a backslash stands for. -/
def escapeLetter? (c : Char) : Option Char :=
  if c = '"' ∨ c = '\\' ∨ c = '/' then some c
  else if c = 'b' then some '\x08'
  else if c = 'f' then some '\x0c'
  else if c = 'n' then some '\n'
  else if c = 'r' then some '\r'
  else if c = 't' then some '\t'
  else none

/-- One character of a string that is kept. -/
def stringChar : Reader Char
  | [] => .error .unexpectedEnd
  | ['\\'] => .error .unexpectedEnd
  | '\\' :: 'u' :: text => numericEscape text
  | '\\' :: c :: text =>
    match escapeLetter? c with
    | some c => .ok (c, text)
    | none => .error .malformed
  | c :: text => if c.toNat < 0x20 then .error .malformed else .ok (c, text)

/-- One character of a string that is skipped. -/
def skippedChar : Reader Unit
  | [] => .error .unexpectedEnd
  | ['\\'] => .error .unexpectedEnd
  | '\\' :: 'u' :: text => do
    let (_, text) ← hexNumber text
    .ok ((), text)
  | '\\' :: c :: text =>
    if (escapeLetter? c).isSome then .ok ((), text) else .error .malformed
  | c :: text => if c.toNat < 0x20 then .error .malformed else .ok ((), text)

/-- The characters of a string up to its closing quotation mark, read one by one. -/
def stringBody {α : Type} (char : Reader α) (text : List Char) :
    Except Refusal (List α × List Char) :=
  match text with
  | '"' :: rest => .ok ([], rest)
  | text =>
    match char text with
    | .error e => .error e
    | .ok (c, rest) =>
      if rest.length < text.length then
        (stringBody char rest).map fun (cs, rest) => (c :: cs, rest)
      else .error .malformed
termination_by text.length

/-- A string that is kept, behind its opening quotation mark. -/
def readString : Reader String := fun text => do
  let (cs, rest) ← stringBody stringChar text
  .ok (.ofList cs, rest)

/-- A string that is skipped, behind its opening quotation mark. -/
def skipString : Reader Unit := fun text => do
  let (_, rest) ← stringBody skippedChar text
  .ok ((), rest)

/-! ## Numbers -/

/-- The greatest exponent, a number of 32 bits with a sign. -/
def maxExponent : Nat := 2147483647

/-- Takes digits into a significand as long as it has 64 bits; the digits left over. Later digits
only move the exponent. -/
def absorb : Nat → List Char → Nat × List Char
  | n, [] => (n, [])
  | n, d :: digits =>
    let next := 10 * n + Digit.value d
    if next ≤ maxUnsigned then absorb next digits else (n, d :: digits)

/-- A significand times a power of ten, in steps of at most `10 ^ 308` that are rounded each. A
number out of range is refused. -/
def scale (negative : Bool) : Nat → Binary64 → Int → Except Refusal Binary64
  | 0, _, _ => .ok (.finite negative 0)
  | fuel + 1, x, e =>
    match x with
    | .finite _ units =>
      let power (k : Nat) : Nat := Binary64.roundUnits (Nat.pow 10 k * Binary64.one) 1
      if e.natAbs ≤ 308 then
        if 0 ≤ e then
          match Binary64.scaleUp negative units (power e.natAbs) with
          | .finite _ units => .ok (.finite negative units)
          | _ => .error .malformed
        else .ok (Binary64.scaleDown negative units (power e.natAbs))
      -- The exponent is out of the reach of one step: a large one is refused, a small one is used
      -- up step by step.
      else if units = 0 then .ok (.finite negative 0)
      else if 0 ≤ e then .error .malformed
      else scale negative fuel (Binary64.scaleDown negative units (power 308)) (e + 308)
    | _ => .error .malformed

/-- The floating point number with the given significand and exponent. -/
def floatOf (negative : Bool) (significand : Nat) (e : Int) : Except Refusal Number :=
  (scale negative 8 (Binary64.ofRatio false (significand * Binary64.one) 1) e).map Number.float

/-- The exponent of a number, behind its mark, and with it the number. -/
def readExponent (negative : Bool) (significand : Nat) (start : Int) : Reader Number := fun text =>
  let (minus, text) := takeSign text
  let digits := text.takeWhile Char.isDigit
  let rest := text.dropWhile Char.isDigit
  if digits.isEmpty then
    .error (if text.isEmpty then .unexpectedEnd else .malformed)
  else
    let e := Digit.natOf digits
    -- Such an exponent is not computed with: its sign alone decides.
    if maxExponent < e then
      if significand ≠ 0 ∧ ¬minus then .error .malformed
      else .ok (.float (.finite negative 0), rest)
    else do
      let x ← floatOf negative significand (if minus then start - e else start + e)
      .ok (x, rest)

/-- What follows the digits of a number, and with it the number. -/
def readTail (negative : Bool) (significand : Nat) (e : Int) (whole : Except Refusal Number) :
    Reader Number
  | [] => do
    let x ← whole
    .ok (x, [])
  | c :: text =>
    if c = 'e' ∨ c = 'E' then readExponent negative significand e text
    else do
      let x ← whole
      .ok (x, c :: text)

/-- The fraction of a number, behind its point, and with it the number. -/
def readFraction (negative : Bool) (significand : Nat) (e : Int) : Reader Number := fun text =>
  let digits := text.takeWhile Char.isDigit
  let rest := text.dropWhile Char.isDigit
  let (significand, unused) := absorb significand digits
  let e := e - (digits.length - unused.length : Nat)
  if digits.isEmpty then .error (if rest.isEmpty then .unexpectedEnd else .malformed)
  else readTail negative significand e (floatOf negative significand e) rest

/-- The whole number with the given sign, if it has 64 bits; floating point otherwise, and for a
negative zero. -/
def wholeNumber (negative : Bool) (significand : Nat) : Except Refusal Number :=
  if !negative then .ok (.integer significand)
  else if significand = 0 ∨ maxSigned + 1 < significand then floatOf true significand 0
  else .ok (.integer (-significand))

/-- A number that is kept, behind its sign. -/
def readUnsigned (negative : Bool) : Reader Number
  | [] => .error .unexpectedEnd
  | c :: text =>
    if c.isDigit then
      let digits := c :: text.takeWhile Char.isDigit
      let rest := text.dropWhile Char.isDigit
      if c = '0' ∧ 1 < digits.length then .error .malformed
      else
        let (significand, unused) := absorb 0 digits
        let e : Int := unused.length
        match rest with
        | '.' :: rest => readFraction negative significand e rest
        | rest =>
          readTail negative significand e
            (if unused.isEmpty then wholeNumber negative significand
              else floatOf negative significand e) rest
    else .error .malformed

/-- A number that is kept. -/
def readNumber : Reader Number
  | '-' :: text => readUnsigned true text
  | text => readUnsigned false text

/-- The exponent of a number that is skipped, if there is one. -/
def skipExponent : Reader Unit
  | [] => .ok ((), [])
  | c :: text =>
    if c = 'e' ∨ c = 'E' then
      let (_, digits) := takeSign text
      if (digits.takeWhile Char.isDigit).isEmpty then .error .malformed
      else .ok ((), digits.dropWhile Char.isDigit)
    else .ok ((), c :: text)

/-- A number that is skipped. One that breaks off is malformed, also at the end of the text. -/
def skipNumber (text : List Char) : Except Refusal (Unit × List Char) :=
  let (_, text) :=
    match text with
    | '-' :: text => (true, text)
    | text => (false, text)
  let digits := text.takeWhile Char.isDigit
  if digits.isEmpty || (digits.head? == some '0' && digits.length != 1) then .error .malformed
  else
    match text.dropWhile Char.isDigit with
    | '.' :: rest =>
      if (rest.takeWhile Char.isDigit).isEmpty then .error .malformed
      else skipExponent (rest.dropWhile Char.isDigit)
    | rest => skipExponent rest

end RequiredFields.Json
