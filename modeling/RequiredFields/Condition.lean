import RequiredFields.Operator

/-!
# Conditions

What a directive asks for: the field is needed always, or when the value of a target field stands in
a relation to some literals.
-/

namespace RequiredFields

/-- When a field has to be filled in. A condition without a target or without an operator holds
always. -/
structure Condition where
  /-- The name of the field whose value decides. -/
  target : Option String := none
  /-- How that value is compared. -/
  operator : Option Operator := none
  /-- What it is compared with. -/
  values : List String := []
  deriving DecidableEq, Repr

namespace Condition

/-- The condition that holds always. -/
def always : Condition := {}

/-- The condition that compares the value of `target` with `values`. -/
def comparing (target : String) (op : Operator) (values : List String) : Condition :=
  ⟨some target, some op, values⟩

/-- Whether the condition lacks a target or an operator. -/
def isUnconditional (c : Condition) : Bool :=
  c.target.isNone || c.operator.isNone

/-- The first literal, the only one that the range operators look at. -/
def firstValue? (c : Condition) : Option String :=
  c.values.head?

/-- The literals in one text, with a comma and a space between them. -/
def joinedValues (c : Condition) : String :=
  String.intercalate ", " c.values

/-- The condition in one line. -/
def display (c : Condition) : String :=
  match c.target, c.operator with
  | some target, some op => target ++ " " ++ op.symbol ++ " " ++ c.joinedValues
  | _, _ => "always"

end Condition

end RequiredFields
