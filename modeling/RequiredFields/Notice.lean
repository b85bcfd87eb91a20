import RequiredFields.Directive

/-!
# Notices

What validation has to say while it runs: warnings about directives that are not understood, and
notes about its decisions.
-/

namespace RequiredFields

/-- A line of the log. -/
inductive Notice where
  /-- A directive was not understood. -/
  | doubt (warning : Directive.Warning)
  /-- No field has the name of the target. -/
  | targetMissing (name : String)
  /-- A field that has to be filled in is empty. -/
  | requiredEmpty (field : String) (condition : Condition)
  /-- A record was validated: the number of its fields at top level and of its violations. -/
  | recordValidated (fields violations : Nat)
  deriving DecidableEq, Repr

namespace Notice

/-- The notice in one line, its level first. -/
def line : Notice → String
  | doubt warning => "WARN " ++ warning.message
  | targetMissing name => "DEBUG Target field not found, condition is false target=" ++ name
  | requiredEmpty field condition =>
    "DEBUG Required field is empty field=" ++ field ++ " condition=" ++ condition.display
  | recordValidated fields violations =>
    "DEBUG Record validated fields=" ++ toString fields ++ " violations=" ++ toString violations

end Notice

end RequiredFields
