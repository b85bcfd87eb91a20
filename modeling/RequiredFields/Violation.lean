import RequiredFields.Condition

/-!
# Violations

What is reported for a field that has to be filled in and is empty.
-/

namespace RequiredFields

/-- A field that has to be filled in and is empty. -/
inductive Violation where
  /-- The field is always needed. -/
  | mandatory (field : String)
  /-- The field is needed because of the value of its target; `values` are the literals of the
  condition in one text. -/
  | mandatoryIf (field target : String) (operator : Operator) (values : String)
  deriving DecidableEq, Repr

namespace Violation

/-- The violation of a condition by the field with the given name. -/
def ofCondition (field : String) (c : Condition) : Violation :=
  match c.target, c.operator with
  | some target, some op => mandatoryIf field target op c.joinedValues
  | _, _ => mandatory field

/-- The name of the field. -/
def field : Violation → String
  | mandatory field => field
  | mandatoryIf field _ _ _ => field

/-- The violation in one line. -/
def message : Violation → String
  | mandatory field => "Field '" ++ field ++ "' is required"
  | mandatoryIf field target op values =>
    "Field '" ++ field ++ "' is required because '" ++ target ++ "' " ++ op.symbol ++ " '" ++
      values ++ "'"

end Violation

end RequiredFields
