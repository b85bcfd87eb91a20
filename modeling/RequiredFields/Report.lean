import RequiredFields.Folder
import RequiredFields.Record.Json
import RequiredFields.Record.Yaml
import RequiredFields.Validator
import RequiredFields.Violation.Json

/-!
# Reports

A record is read from a text in the format that the extension of its source tells, and validated.
-/

namespace RequiredFields

/-- The formats of records. -/
inductive RecordFormat where
  /-- JSON. -/
  | json
  /-- YAML. -/
  | yaml
  deriving DecidableEq, Repr

/-- The format of a record with the given source: YAML for the extensions `yaml` and `yml` in any
case, JSON for all others and where there is no source. -/
def RecordFormat.ofSource (source : Option String) : RecordFormat :=
  match source.bind extension? with
  | some e =>
    let e := e.toList.map Char.toLower
    if e = ['y', 'a', 'm', 'l'] ∨ e = ['y', 'm', 'l'] then .yaml else .json
  | none => .json

namespace Report

/-- Why there is no report. -/
inductive Fault where
  /-- The text is refused as a JSON record. -/
  | json (refusal : Json.Refusal)
  /-- The text is refused as a YAML record. -/
  | yaml (fault : Yaml.Fault)
  /-- The settings cannot be used. -/
  | settings (fault : Settings.Fault)
  deriving DecidableEq, Repr

/-- What is wrong, without the details of a refused text. -/
def Fault.message : Fault → String
  | json _ => "Invalid record JSON"
  | yaml _ => "Invalid record YAML"
  | settings fault => fault.message

/-- The record that a text writes. -/
def readRecord (format : RecordFormat) (text : String) : Except Fault Record :=
  match format with
  | .json => (Record.ofJson text).mapError .json
  | .yaml => (Record.ofYaml text).mapError .yaml

/-- The violations of the record in a text. The record is read before the settings are checked. -/
def check (text : String) (source : Option String) (settings : Settings) :
    Except Fault (List Violation × List Notice) := do
  let record ← readRecord (.ofSource source) text
  let validator ← (Validator.ofSettings settings).mapError .settings
  let (violations, notices) := validator.validate record.fields
  return (violations,
    notices ++ [.recordValidated record.fields.length violations.length])

/-- The report as a JSON value. -/
def toJson (violations : List Violation) : Json.Value :=
  .array (violations.map Violation.toReport)

end Report

end RequiredFields
