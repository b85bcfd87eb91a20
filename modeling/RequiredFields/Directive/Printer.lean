import RequiredFields.Directive

/-!
# Writing directives

The written form of a directive with a condition. A comma inside a value gets a backslash, which
keeps it from separating values; then every character that a group can escape gets one.
-/

namespace RequiredFields.Directive

/-- A value with a backslash in front of every comma. -/
def protectCommas : List Char → List Char
  | [] => []
  | c :: text => if c = ',' then '\\' :: ',' :: protectCommas text else c :: protectCommas text

/-- The values of a list with a comma between two blanks between them. -/
def joinValues : List (List Char) → List Char
  | [] => []
  | [value] => protectCommas value
  | value :: values => protectCommas value ++ ' ' :: ',' :: ' ' :: joinValues values

/-- A text with a backslash in front of every character that a group can escape. -/
def escape : List Char → List Char
  | [] => []
  | c :: text => if isEscapable c then '\\' :: c :: escape text else c :: escape text

/-- The expression that compares the value of a target with literals. -/
def writeExpression (target : List Char) (op : Operator) (values : List (List Char)) : List Char :=
  target ++ ' ' :: (op.symbol.toList ++ ' ' :: joinValues values)

/-- The directive with an expression in its group. -/
def write (d : Directive) (target : List Char) (op : Operator) (values : List (List Char)) :
    List Char :=
  d.marker.toList ++ '(' :: (escape (writeExpression target op values) ++ [')'])

end RequiredFields.Directive
