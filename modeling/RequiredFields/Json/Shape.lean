import RequiredFields.Json.Lexeme

/-!
# Arrays and objects

Reading the elements of an array and the members of an object one by one, skipping values that
nobody asked for, and naming the value that stands where another kind is wanted.
-/

namespace RequiredFields.Json

/-- The nesting of arrays and objects that is read; skipped values nest as deep as they like. -/
def maxDepth : Nat := 127

/-- Refuses the value at the start of a text because `wanted` was wanted there. Words, numbers and
strings have to be complete; of arrays and objects the bracket is enough. -/
def refuseKind (wanted : String) (text : List Char) : Refusal :=
  let found (kind : Kind) : Refusal := .mismatch (.kind kind wanted)
  let after (rest : Except Refusal (List Char)) (kind : Kind) : Refusal :=
    match rest with
    | .ok _ => found kind
    | .error e => e
  match skipBlank text with
  | [] => .unexpectedEnd
  | 'n' :: text => after (word ['u', 'l', 'l'] text) .null
  | 't' :: text => after (word ['r', 'u', 'e'] text) (.boolean true)
  | 'f' :: text => after (word ['a', 'l', 's', 'e'] text) (.boolean false)
  | '[' :: _ => found .array
  | '\x7b' :: _ => found .object
  | '"' :: text =>
    match readString text with
    | .ok (s, _) => found (.string s)
    | .error e => e
  | c :: text =>
    if c = '-' ∨ c.isDigit then
      match readNumber (c :: text) with
      | .ok (n, _) => found (.number n)
      | .error e => e
    else .malformed

/-! ## Elements -/

/-- The text at the next element of an array; none when the array ends. -/
def nextElement? (first : Bool) (text : List Char) : Except Refusal (Option (List Char)) :=
  match skipBlank text with
  | [] => .error .unexpectedEnd
  | ']' :: _ => .ok none
  | ',' :: rest =>
    -- In front of the first element a comma is left for the element's reader to refuse.
    if first then .ok (some (',' :: rest))
    else
      match skipBlank rest with
      | [] => .error .unexpectedEnd
      | ']' :: _ => .error .malformed
      | text => .ok (some text)
  | text => if first then .ok (some text) else .error .malformed

/-- The next element of an array, if there is one. -/
def readElement? {α : Type} (first : Bool) (item : Reader α) : Reader (Option α) := fun text => do
  match ← nextElement? first text with
  | none => .ok (none, text)
  | some text =>
    let (x, rest) ← item text
    .ok (some x, rest)

/-- The end of an array that may have no further element. -/
def closeArray (text : List Char) : Except Refusal (List Char) :=
  match skipBlank text with
  | [] => .error .unexpectedEnd
  | ']' :: rest => .ok rest
  | _ => .error .malformed

/-- The elements of an array and its end, behind the opening bracket or, unless `first`, behind an
element. -/
def readElements {α : Type} (item : Reader α) (first : Bool) (text : List Char) :
    Except Refusal (List α × List Char) :=
  match nextElement? first text with
  | .error e => .error e
  | .ok none => .ok ([], (skipBlank text).drop 1)
  | .ok (some start) =>
    match item start with
    | .error e => .error e
    | .ok (x, rest) =>
      if rest.length < text.length then
        (readElements item false rest).map fun (xs, rest) => (x :: xs, rest)
      else .error .malformed
termination_by text.length

/-! ## Members -/

/-- The text behind the opening quotation mark of the next name of an object; none when the object
ends. -/
def nextName? (first : Bool) (text : List Char) : Except Refusal (Option (List Char)) :=
  match skipBlank text with
  | [] => .error .unexpectedEnd
  | '\x7d' :: _ => .ok none
  | '"' :: rest => if first then .ok (some rest) else .error .malformed
  | ',' :: rest =>
    if first then .error .malformed
    else
      match skipBlank rest with
      | [] => .error .unexpectedEnd
      | '"' :: rest => .ok (some rest)
      | _ => .error .malformed
  | _ => .error .malformed

/-- The text behind the colon that follows a name. -/
def colon (text : List Char) : Except Refusal (List Char) :=
  match skipBlank text with
  | [] => .error .unexpectedEnd
  | ':' :: rest => .ok rest
  | _ => .error .malformed

/-- The members of an object and its end. `member` takes what was read so far, the name of a member
and the text behind the name, and reads on to the end of the member's value. -/
def readMembers {σ ν : Type} (name : Reader ν) (member : σ → ν → Reader σ) (state : σ)
    (first : Bool) (text : List Char) : Except Refusal (σ × List Char) :=
  match nextName? first text with
  | .error e => .error e
  | .ok none => .ok (state, (skipBlank text).drop 1)
  | .ok (some start) =>
    match name start with
    | .error e => .error e
    | .ok (n, rest) =>
      match member state n rest with
      | .error e => .error e
      | .ok (state, rest) =>
        if rest.length < text.length then readMembers name member state false rest
        else .error .malformed
termination_by text.length

/-! ## Skipped values -/

/-- A value of any kind that is skipped; `fuel` bounds its nesting. -/
def skipNested : Nat → List Char → Except Refusal (Unit × List Char)
  | 0, _ => .error .malformed
  | fuel + 1, text =>
    let ended (rest : Except Refusal (List Char)) : Except Refusal (Unit × List Char) :=
      rest.map fun rest => ((), rest)
    match skipBlank text with
    | [] => .error .unexpectedEnd
    | 'n' :: text => ended (word ['u', 'l', 'l'] text)
    | 't' :: text => ended (word ['r', 'u', 'e'] text)
    | 'f' :: text => ended (word ['a', 'l', 's', 'e'] text)
    | '"' :: text => skipString text
    | '[' :: text => (readElements (skipNested fuel) true text).map fun (_, rest) => ((), rest)
    | '\x7b' :: text =>
      readMembers skipString (fun _ _ text => do skipNested fuel (← colon text)) () true text
    | c :: text =>
      if c = '-' ∨ c.isDigit then skipNumber (c :: text) else .error .malformed

/-- A value of any kind that is skipped. A text nests no deeper than it is long. -/
def skipValue : Reader Unit := fun text =>
  skipNested (text.length + 1) text

/-! ## Common shapes -/

/-- A string. -/
def readText : Reader String := fun text =>
  match skipBlank text with
  | '"' :: rest => readString rest
  | rest => .error (refuseKind "a string" rest)

/-- The word `null`, or a value. -/
def readOptional {α : Type} (item : Reader α) : Reader (Option α) := fun text =>
  match skipBlank text with
  | 'n' :: rest => do
    let rest ← word ['u', 'l', 'l'] rest
    .ok (none, rest)
  | rest => do
    let (x, rest) ← item rest
    .ok (some x, rest)

/-- An array with elements of one shape, which `depth` levels of nesting are left for. -/
def readList {α : Type} (depth : Nat) (item : Nat → Reader α) : Reader (List α) := fun text =>
  match skipBlank text with
  | '[' :: rest =>
    match depth with
    | 0 => .error .malformed
    | depth + 1 => readElements (item depth) true rest
  | rest => .error (refuseKind "a sequence" rest)

/-- The value of a member whose name was just read, kept in `slot`; a second member of that name is
refused before its value is read. -/
def readOnce {α : Type} (name : String) (slot : Option α) (item : Reader α) : Reader (Option α) :=
  fun text =>
    match slot with
    | some _ => .error (.mismatch (.duplicate name))
    | none => do
      let (x, rest) ← item (← colon text)
      .ok (some x, rest)

/-- The value of a member that nobody asked for. -/
def skipMember : Reader Unit := fun text => do
  skipValue (← colon text)

/-- A text that consists of one value and blanks around it. -/
def readDocument {α : Type} (item : Reader α) (text : String) : Except Refusal α := do
  let (x, rest) ← item text.toList
  match skipBlank rest with
  | [] => .ok x
  | _ => .error .malformed

end RequiredFields.Json
