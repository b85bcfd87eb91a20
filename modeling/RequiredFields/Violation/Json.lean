import RequiredFields.Condition.Json
import RequiredFields.Violation

/-!
# Violations in JSON

A violation is written with all it knows, or as a line of a report: the name of the field and the
message.
-/

namespace RequiredFields.Violation

open Json

/-- The violation with all it knows. -/
def toJson : Violation → Value
  | mandatory field => .object [("kind", .string "mandatory"), ("field", .string field)]
  | mandatoryIf field target op values =>
    .object [("kind", .string "mandatory_if"), ("field", .string field),
      ("target", .string target), ("operator", op.toJson), ("values", .string values)]

/-- The violation as a line of a report. -/
def toReport (v : Violation) : Value :=
  .object [("field", .string v.field), ("message", .string v.message)]

end RequiredFields.Violation
