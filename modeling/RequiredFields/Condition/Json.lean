import RequiredFields.Condition
import RequiredFields.Json.Value

/-!
# Conditions in JSON

A condition is an object with the members `target`, `operator` and `values`, of which each may be
left out, or an array of the three in that order, of which only the last may be left out. An
operator is its name, or an object with that name as its one member and `null` for its value.
-/

namespace RequiredFields

open Json

namespace Operator

/-- The name of the operator. -/
def name : Operator → String
  | eq => "Eq"
  | ne => "Ne"
  | gt => "Gt"
  | ge => "Ge"
  | lt => "Lt"
  | le => "Le"

/-- The operator with the given name. -/
def ofName? (name : String) : Option Operator :=
  all.find? (·.name == name)

/-- Every operator is found by its name. -/
theorem ofName?_name (op : Operator) : ofName? op.name = some op := by
  cases op <;> decide

/-- The name of an operator, written as a string behind its quotation mark. -/
def readName : Reader Operator := fun text => do
  let (name, rest) ← readString text
  match ofName? name with
  | some op => .ok (op, rest)
  | none => .error (.mismatch (.word name (all.map Operator.name)))

/-- The word `null`, the only value that the object form of an operator has. -/
def readUnit : Reader Unit := fun text =>
  match skipBlank text with
  | 'n' :: rest => do
    let rest ← word ['u', 'l', 'l'] rest
    .ok ((), rest)
  | rest => .error (refuseKind "unit" rest)

/-- An operator, `depth` levels of nesting being left. -/
def read (depth : Nat) : Reader Operator := fun text =>
  match skipBlank text with
  | [] => .error .unexpectedEnd
  | '"' :: rest => readName rest
  | '\x7b' :: rest =>
    if depth = 0 then .error .malformed
    else
      match skipBlank rest with
      | '"' :: rest => do
        let (op, rest) ← readName rest
        let (_, rest) ← readUnit (← colon rest)
        match skipBlank rest with
        | [] => .error .unexpectedEnd
        | '\x7d' :: rest => .ok (op, rest)
        | _ => .error .malformed
      | rest => .error (refuseKind "variant identifier" rest)
  | _ => .error .malformed

/-- The operator that a text writes. -/
def ofJson (text : String) : Except Refusal Operator :=
  readDocument (read maxDepth) text

/-- The operator as a JSON value. -/
def toJson (op : Operator) : Value :=
  .string op.name

end Operator

namespace Condition

/-- The members of a condition that were read so far. -/
structure Draft where
  /-- The member `target`, if it was there. -/
  target : Option (Option String) := none
  /-- The member `operator`, if it was there. -/
  operator : Option (Option Operator) := none
  /-- The member `values`, if it was there. -/
  values : Option (List String) := none

/-- A member of a condition in its object form. -/
def readMember (depth : Nat) (draft : Draft) (name : String) : Reader Draft := fun text => do
  if name = "target" then
    let (slot, rest) ← readOnce name draft.target (readOptional readText) text
    .ok ({ draft with target := slot }, rest)
  else if name = "operator" then
    let (slot, rest) ← readOnce name draft.operator (readOptional (Operator.read depth)) text
    .ok ({ draft with operator := slot }, rest)
  else if name = "values" then
    let (slot, rest) ← readOnce name draft.values (readList depth fun _ => readText) text
    .ok ({ draft with values := slot }, rest)
  else
    let (_, rest) ← skipMember text
    .ok (draft, rest)

/-- What an array of too few elements is short of. -/
def arrayForm : String := "struct Condition with 3 elements"

/-- The array form of a condition, behind its bracket. -/
def readArray (depth : Nat) : Reader Condition := fun text => do
  let (target, text) ← readElement? true (readOptional readText) text
  let some target := target | .error (.mismatch (.length 0 arrayForm))
  let (operator, text) ← readElement? false (readOptional (Operator.read depth)) text
  let some operator := operator | .error (.mismatch (.length 1 arrayForm))
  let (values, text) ← readElement? false (readList depth fun _ => readText) text
  let rest ← closeArray text
  .ok (⟨target, operator, values.getD []⟩, rest)

/-- A condition, `depth` levels of nesting being left. -/
def read (depth : Nat) : Reader Condition := fun text =>
  match skipBlank text, depth with
  | '[' :: _, 0 | '\x7b' :: _, 0 => .error .malformed
  | '[' :: rest, depth + 1 => readArray depth rest
  | '\x7b' :: rest, depth + 1 => do
    let (draft, rest) ← readMembers readString (readMember depth) {} true rest
    .ok (⟨draft.target.join, draft.operator.join, draft.values.getD []⟩, rest)
  | rest, _ => .error (refuseKind "struct Condition" rest)

/-- The condition that a text writes. -/
def ofJson (text : String) : Except Refusal Condition :=
  readDocument (read maxDepth) text

/-- The condition as a JSON value. -/
def toJson (c : Condition) : Value :=
  .object [("target", .ofOption c.target),
    ("operator", match c.operator with
      | some op => op.toJson
      | none => .null),
    ("values", .array (c.values.map .string))]

end Condition

end RequiredFields
