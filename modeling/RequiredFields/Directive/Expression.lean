import RequiredFields.Condition
import RequiredFields.Directive.Values

/-!
# The expression of a group

An expression is a target, an operator and a list of values. The leftmost operator splits it, and
where an operator of two characters starts, that one counts. An expression that lacks its operator
or its target asks for the field always, and says so in a warning unless it is blank.
-/

namespace RequiredFields.Directive

/-- Why a directive with a group still asks for the field always. -/
inductive Warning where
  /-- The group of the directive in `description` is never closed. -/
  | unbalanced (description : String)
  /-- The expression has no operator. -/
  | noOperator (expression : String)
  /-- The expression starts with its operator. -/
  | noTarget (expression : String)
  deriving DecidableEq, Repr

namespace Warning

/-- The warning in one line. -/
def message : Warning → String
  | unbalanced description =>
    "Unbalanced parentheses in directive '" ++ description ++
      "', treating field as always mandatory"
  | noOperator expression =>
    "No operator found in condition '" ++ expression ++ "', treating field as always mandatory"
  | noTarget expression =>
    "Empty target field in condition '" ++ expression ++ "', treating field as always mandatory"

end Warning

/-- What a directive asks for, and what was wrong with its text. -/
structure Finding where
  /-- When the field has to be filled in. -/
  condition : Condition
  /-- Why the text was not understood, if it was not. -/
  warning : Option Warning := none
  deriving DecidableEq, Repr

/-- The text before the leftmost operator, that operator, and the text after it. -/
def splitAtOperator? : List Char → Option (List Char × Operator × List Char)
  | [] => none
  | '!' :: '=' :: text => some ([], .ne, text)
  | '<' :: '=' :: text => some ([], .le, text)
  | '>' :: '=' :: text => some ([], .ge, text)
  | '=' :: text => some ([], .eq, text)
  | '<' :: text => some ([], .lt, text)
  | '>' :: text => some ([], .gt, text)
  | c :: text => (splitAtOperator? text).map fun (left, op, right) => (c :: left, op, right)

/-- The condition that an expression writes. -/
def readExpression (text : List Char) : Finding :=
  let expression := Text.trim text
  match splitAtOperator? expression with
  | none =>
    if expression.isEmpty then ⟨.always, none⟩
    else ⟨.always, some (.noOperator (.ofList expression))⟩
  | some (left, op, right) =>
    let target := Text.trim left
    if target.isEmpty then ⟨.always, some (.noTarget (.ofList expression))⟩
    else
      ⟨.comparing (.ofList target) op ((splitValues (Text.trim right)).map String.ofList), none⟩

end RequiredFields.Directive
