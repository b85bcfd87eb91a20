import RequiredFields.Condition
import RequiredFields.Number.Binary64
import RequiredFields.Text.Blank
import RequiredFields.Text.Order

/-!
# Whether a condition holds

A condition is evaluated against the value of its target. An absent value counts as the empty text.
The range operators order two texts as numbers when both are finite numbers, and by code point
otherwise.
-/

namespace RequiredFields

/-- How the range operators order two texts. -/
structure Comparison where
  /-- Whether two texts that are both finite numbers are ordered as numbers. -/
  numeric : Bool := true
  deriving DecidableEq, Repr

namespace Comparison

/-- The finite number that a text says, blanks around it aside, as a multiple of the least positive
floating point number. -/
def number? (text : String) : Option Int :=
  (Binary64.ofText? (Text.trim text.toList)).bind Binary64.units?

/-- The order of two whole numbers. -/
def compareInt (x y : Int) : Ordering :=
  if x < y then .lt else if y < x then .gt else .eq

/-- The order of two texts. -/
def compare (c : Comparison) (left right : String) : Ordering :=
  match c.numeric, number? left, number? right with
  | true, some x, some y => compareInt x y
  | _, _, _ => Text.compare left.toList right.toList

end Comparison

namespace Operator

/-- Whether the order of a value and a literal satisfies a range operator. -/
def admits : Operator → Ordering → Bool
  | gt, o => o == .gt
  | ge, o => o != .lt
  | lt, o => o == .lt
  | le, o => o != .gt
  | eq, _ | ne, _ => false

end Operator

namespace Condition

/-- Whether a value stands in the relation `op` to the literals. An empty value equals an empty list
of literals and satisfies no other relation to it. -/
def satisfies (c : Comparison) (op : Operator) (values : List String) (value : String) : Bool :=
  match op with
  | .eq => (value.isEmpty && values.isEmpty) || values.contains value
  | .ne => !value.isEmpty && !values.contains value
  | op =>
    match values with
    | [] => false
    | literal :: _ => !value.isEmpty && op.admits (c.compare value literal)

/-- Whether the condition holds when its target has the given value. -/
def holds (c : Comparison) (condition : Condition) (value : Option String) : Bool :=
  match condition.target, condition.operator with
  | some _, some op => satisfies c op condition.values (value.getD "")
  | _, _ => true

end Condition

end RequiredFields
