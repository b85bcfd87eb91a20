import RequiredFields.Text.Blank

/-!
# Settings

What can be set about validation, and which keywords are usable.
-/

namespace RequiredFields

/-- The settings of a validator. -/
structure Settings where
  /-- The keyword of the directive. -/
  directive : String := "mandatoryIf"
  /-- Whether the range operators order finite numbers as numbers. -/
  numericComparison : Bool := true
  deriving DecidableEq, Repr

namespace Settings

/-- Why settings are refused. -/
inductive Fault where
  /-- The keyword is blank. -/
  | emptyKeyword
  /-- The keyword starts with the sign that a marker starts with, or has a parenthesis. -/
  | reservedCharacter (directive : String)
  deriving DecidableEq, Repr

/-- The fault in one line. -/
def Fault.message : Fault → String
  | emptyKeyword => "Configuration error: directive keyword must not be empty"
  | reservedCharacter directive =>
    "Configuration error: directive keyword '" ++ directive ++
      "' must not contain '$' or parentheses"

/-- The keyword without the blanks around it. -/
def keyword (s : Settings) : String :=
  .ofList (Text.trim s.directive.toList)

/-- The first fault of the settings, if they have one. -/
def fault? (s : Settings) : Option Fault :=
  match Text.trim s.directive.toList with
  | [] => some .emptyKeyword
  | c :: text =>
    if c = '$' ∨ '(' ∈ c :: text ∨ ')' ∈ c :: text then some (.reservedCharacter s.directive)
    else none

/-- The settings, unless they have a fault. -/
def check (s : Settings) : Except Fault Settings :=
  match s.fault? with
  | some fault => .error fault
  | none => .ok s

end Settings

end RequiredFields
