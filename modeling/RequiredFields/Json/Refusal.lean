import RequiredFields.Number.Shortest
import RequiredFields.Text.Quoted

/-!
# Why a JSON text is refused

A text is read once from left to right, and the first problem met is the answer: the text ends too
early, it is not JSON, or it is JSON of another shape than the one asked for.
-/

namespace RequiredFields.Json

/-- A number: whole numbers of 64 bits are exact, all others are floating point. -/
inductive Number where
  /-- A whole number. -/
  | integer (value : Int)
  /-- Any other number. -/
  | float (value : Binary64)
  deriving DecidableEq, Repr

/-- A value that stands where another kind of value is wanted. -/
inductive Kind where
  /-- The word `null`. -/
  | null
  /-- A truth value. -/
  | boolean (value : Bool)
  /-- A number. -/
  | number (value : Number)
  /-- A string. -/
  | string (value : String)
  /-- An array. -/
  | array
  /-- An object. -/
  | object
  deriving DecidableEq, Repr

namespace Kind

/-- The kind and its value, as a message names them. -/
def describe : Kind → String
  | null => "null"
  | boolean value => "boolean `" ++ (if value then "true" else "false") ++ "`"
  | number (.integer value) => "integer `" ++ toString value ++ "`"
  | number (.float value) => "floating point `" ++ value.mixed ++ "`"
  | string value => "string " ++ Text.quoted value
  | array => "sequence"
  | object => "map"

end Kind

/-- How the shape of a text differs from the shape wanted. -/
inductive Mismatch where
  /-- A value of another kind than `wanted`. -/
  | kind (found : Kind) (wanted : String)
  /-- An array that ends after `count` elements, too early for `wanted`. -/
  | length (count : Nat) (wanted : String)
  /-- An object without a member that it needs. -/
  | missing (member : String)
  /-- An object with two members of one name. -/
  | duplicate (member : String)
  /-- A word that is none of the words wanted. -/
  | word (found : String) (wanted : List String)
  deriving DecidableEq, Repr

namespace Mismatch

/-- The mismatch in one line. -/
def message : Mismatch → String
  | kind found wanted => "invalid type: " ++ found.describe ++ ", expected " ++ wanted
  | length count wanted => "invalid length " ++ toString count ++ ", expected " ++ wanted
  | missing member => "missing field `" ++ member ++ "`"
  | duplicate member => "duplicate field `" ++ member ++ "`"
  | word found wanted =>
    "unknown variant `" ++ found ++ "`, expected one of " ++
      String.intercalate ", " (wanted.map fun w => "`" ++ w ++ "`")

end Mismatch

/-- Why a text is refused. -/
inductive Refusal where
  /-- The text ends too early. -/
  | unexpectedEnd
  /-- The text is not JSON, or holds something that cannot be kept. -/
  | malformed
  /-- The text has another shape than the one wanted. -/
  | mismatch (cause : Mismatch)
  deriving DecidableEq, Repr

/-- Reads a value from the start of a text; the answer is the value and the rest of the text. -/
abbrev Reader (α : Type) := List Char → Except Refusal (α × List Char)

end RequiredFields.Json
