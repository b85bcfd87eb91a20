import RequiredFields.Json.Shape

/-!
# JSON values

Values of any shape, how they are read, and how they are written: in one line without blanks, or in
several lines with two blanks for each level of nesting.
-/

namespace RequiredFields.Json

/-- A value. -/
inductive Value where
  /-- The word `null`. -/
  | null
  /-- A truth value. -/
  | boolean (value : Bool)
  /-- A number. -/
  | number (value : Number)
  /-- A string. -/
  | string (value : String)
  /-- An array. -/
  | array (items : List Value)
  /-- An object, its members in the order of the text. -/
  | object (members : List (String × Value))
  deriving Repr, Inhabited

/-! ## Reading -/

namespace Value

/-- A value that `depth` levels of nesting are left for. -/
def read : Nat → List Char → Except Refusal (Value × List Char)
  | depth, text =>
    let ended (rest : Except Refusal (List Char)) (x : Value) :
        Except Refusal (Value × List Char) :=
      rest.map fun rest => (x, rest)
    match skipBlank text with
    | [] => .error .unexpectedEnd
    | 'n' :: rest => ended (word ['u', 'l', 'l'] rest) .null
    | 't' :: rest => ended (word ['r', 'u', 'e'] rest) (.boolean true)
    | 'f' :: rest => ended (word ['a', 'l', 's', 'e'] rest) (.boolean false)
    | '"' :: rest => (readString rest).map fun (s, rest) => (.string s, rest)
    | '[' :: rest =>
      match depth with
      | 0 => .error .malformed
      | depth + 1 => (readElements (read depth) true rest).map fun (xs, rest) => (.array xs, rest)
    | '\x7b' :: rest =>
      match depth with
      | 0 => .error .malformed
      | depth + 1 =>
        (readMembers readString
          (fun members name rest => do
            let (x, rest) ← read depth (← colon rest)
            .ok ((name, x) :: members, rest))
          [] true rest).map fun (members, rest) => (.object members.reverse, rest)
    | c :: rest =>
      if c = '-' ∨ c.isDigit then (readNumber (c :: rest)).map fun (n, rest) => (.number n, rest)
      else .error .malformed

/-- The value that a text writes. -/
def ofText (text : String) : Except Refusal Value :=
  readDocument (read maxDepth) text

/-! ## Writing -/

/-- Four hexadecimal digits in lower case. -/
def fourHexDigits (n : Nat) : List Char :=
  let digits := Text.hexDigits n
  List.replicate (4 - digits.length) '0' ++ digits

/-- One character inside a written string. -/
def writeChar (c : Char) : List Char :=
  if c = '"' then ['\\', '"']
  else if c = '\\' then ['\\', '\\']
  else if c = '\x08' then ['\\', 'b']
  else if c = '\x0c' then ['\\', 'f']
  else if c = '\n' then ['\\', 'n']
  else if c = '\r' then ['\\', 'r']
  else if c = '\t' then ['\\', 't']
  else if c.toNat < 0x20 then '\\' :: 'u' :: fourHexDigits c.toNat
  else [c]

/-- A string between its quotation marks. -/
def writeString (s : String) : List Char :=
  '"' :: (s.toList.flatMap writeChar ++ ['"'])

/-- A number. Numbers that are not finite have no text and are written as `null`. -/
def writeNumber : Number → List Char
  | .integer n => (toString n).toList
  | .float x => if x.units?.isSome then x.mixed.toList else ['n', 'u', 'l', 'l']

/-- Texts with a comma between them. -/
def withCommas : List (List Char) → List Char
  | [] => []
  | [text] => text
  | text :: texts => text ++ ',' :: withCommas texts

mutual

/-- The value in one line without blanks. -/
def write : Value → List Char
  | null => ['n', 'u', 'l', 'l']
  | boolean true => ['t', 'r', 'u', 'e']
  | boolean false => ['f', 'a', 'l', 's', 'e']
  | number n => writeNumber n
  | string s => writeString s
  | array items => '[' :: (withCommas (writeItems items) ++ [']'])
  | object members => '\x7b' :: (withCommas (writeMembers members) ++ ['\x7d'])

/-- The elements of an array in one line each. -/
def writeItems : List Value → List (List Char)
  | [] => []
  | x :: items => x.write :: writeItems items

/-- The members of an object in one line each. -/
def writeMembers : List (String × Value) → List (List Char)
  | [] => []
  | (name, x) :: members => (writeString name ++ ':' :: x.write) :: writeMembers members

end

/-- A new line with two blanks for each of `level` levels. -/
def newLine (level : Nat) : List Char :=
  '\n' :: List.replicate (2 * level) ' '

/-- Parts of an array or object on a line each, between brackets; no lines where there are no
parts. -/
def bracketed (level : Nat) (first last : Char) (parts : List (List Char)) : List Char :=
  if parts.isEmpty then [first, last]
  else first :: (withCommas (parts.map (newLine (level + 1) ++ ·)) ++ newLine level ++ [last])

mutual

/-- The value in several lines, for a value at the given level of nesting. -/
def writeLines (level : Nat) : Value → List Char
  | null => ['n', 'u', 'l', 'l']
  | boolean true => ['t', 'r', 'u', 'e']
  | boolean false => ['f', 'a', 'l', 's', 'e']
  | number n => writeNumber n
  | string s => writeString s
  | array items => bracketed level '[' ']' (itemLines (level + 1) items)
  | object members => bracketed level '\x7b' '\x7d' (memberLines (level + 1) members)

/-- The elements of an array, each in several lines. -/
def itemLines (level : Nat) : List Value → List (List Char)
  | [] => []
  | x :: items => x.writeLines level :: itemLines level items

/-- The members of an object, each in several lines. -/
def memberLines (level : Nat) : List (String × Value) → List (List Char)
  | [] => []
  | (name, x) :: members =>
    (writeString name ++ ':' :: ' ' :: x.writeLines level) :: memberLines level members

end

/-- The text of the value in one line. -/
def compact (x : Value) : String := .ofList x.write

/-- The text of the value in several lines. -/
def pretty (x : Value) : String := .ofList (x.writeLines 0)

/-- A string, or `null`. -/
def ofOption : Option String → Value
  | none => null
  | some s => string s

end Value

end RequiredFields.Json
