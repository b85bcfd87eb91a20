import RequiredFields.Directive.Expression
import RequiredFields.Directive.Group
import RequiredFields.Directive.Marker

/-!
# Directives

A directive stands anywhere in the description of a field: its marker, then optionally a group in
parentheses with an expression. Only the first marker that stands alone counts. Reading never
fails: a directive that is not understood asks for the field always.
-/

namespace RequiredFields

/-- The directive with a given keyword. -/
structure Directive where
  /-- What follows the `$`. -/
  keyword : String := "mandatoryIf"
  deriving DecidableEq, Repr

namespace Directive

/-- The text that starts the directive. -/
def marker (d : Directive) : String :=
  "$" ++ d.keyword

/-- What the directive asks for whose marker ends right before `rest`. -/
def readGroup (description : String) (rest : List Char) : Finding :=
  match Text.trimStart rest with
  | '(' :: text =>
    match closeGroup? 0 text with
    | some (body, _) => readExpression (unescape body)
    | none => ⟨.always, some (.unbalanced description)⟩
  | _ => ⟨.always, none⟩

/-- What the first directive in a description asks for. -/
def find? (d : Directive) (description : String) : Option Finding :=
  (afterMarker? d.keyword.toList description.toList).map (readGroup description)

/-- Whether a description carries the directive. -/
def isIn (d : Directive) (description : String) : Bool :=
  (afterMarker? d.keyword.toList description.toList).isSome

/-- The condition of the first directive in a description. -/
def condition? (d : Directive) (description : String) : Option Condition :=
  (d.find? description).map (·.condition)

/-- A condition is found exactly where the directive stands. -/
theorem isSome_condition? (d : Directive) (description : String) :
    (d.condition? description).isSome = d.isIn description := by
  simp [condition?, find?, isIn]

/-- The values that a text lists. -/
def valuesOf (text : String) : List String :=
  (splitValues text.toList).map String.ofList

end Directive

end RequiredFields
