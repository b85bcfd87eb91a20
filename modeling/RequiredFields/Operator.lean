/-!
# Comparison operators

The six operators of a condition and their written symbols.
-/

namespace RequiredFields

/-- How a condition compares the value of its target with its literals. -/
inductive Operator where
  /-- Equal to one of the literals. -/
  | eq
  /-- Different from every literal. -/
  | ne
  /-- Above the first literal. -/
  | gt
  /-- Not below the first literal. -/
  | ge
  /-- Below the first literal. -/
  | lt
  /-- Not above the first literal. -/
  | le
  deriving DecidableEq, Repr

namespace Operator

/-- The six operators. -/
def all : List Operator := [.eq, .ne, .gt, .ge, .lt, .le]

/-- The operator as a directive writes it. -/
def symbol : Operator → String
  | eq => "="
  | ne => "!="
  | gt => ">"
  | ge => ">="
  | lt => "<"
  | le => "<="

/-- Whether the operator asks for an ordering, and so looks at the first literal alone. -/
def isRange : Operator → Bool
  | eq | ne => false
  | gt | ge | lt | le => true

end Operator

end RequiredFields
