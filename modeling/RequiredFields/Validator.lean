import RequiredFields.Condition.Evaluation
import RequiredFields.Notice
import RequiredFields.Record
import RequiredFields.Settings
import RequiredFields.Violation

/-!
# Validation

A validator reads the directive of every field, looks its target up among all fields of the record
at any depth, and reports each field that has to be filled in and is empty. Every answer comes with
the notices that led to it.
-/

namespace RequiredFields

/-- A directive and an order of texts. -/
structure Validator where
  /-- The directive that makes a field needed. -/
  directive : Directive := {}
  /-- How the range operators order two texts. -/
  comparison : Comparison := {}
  deriving DecidableEq, Repr

namespace Validator

/-- The validator for settings that have no fault. -/
def ofSettings (s : Settings) : Except Settings.Fault Validator :=
  s.check.map fun s => ⟨⟨s.keyword⟩, ⟨s.numericComparison⟩⟩

/-- What the directive of a field asks for, if the field carries it. -/
def findingOf? (v : Validator) (f : Field) : Option Directive.Finding :=
  f.description.bind v.directive.find?

/-- Whether a condition holds among the given fields. A condition whose target is missing does not
hold. -/
def holds (v : Validator) (c : Condition) (fields : List Field) : Bool × List Notice :=
  match c.target with
  | none => (c.holds v.comparison none, [])
  | some name =>
    match findField? fields name with
    | some target => (c.holds v.comparison target.value, [])
    | none => (false, [.targetMissing name])

/-- Whether a field has to be filled in, its target looked up among the fields of a forest. -/
def isRequired (v : Validator) (f : Field) (forest : List Field) : Bool × List Notice :=
  match v.findingOf? f with
  | none => (false, [])
  | some finding =>
    let (holds, notices) := v.holds finding.condition (flattenAll forest)
    (holds, (finding.warning.map Notice.doubt).toList ++ notices)

/-- The violation of one field among the fields of a record, if there is one. -/
def checkField (v : Validator) (fields : List Field) (f : Field) :
    Option Violation × List Notice :=
  match v.findingOf? f with
  | none => (none, [])
  | some finding =>
    let (holds, notices) := v.holds finding.condition fields
    -- What is doubtful about the text comes before what follows from it.
    let before := (finding.warning.map Notice.doubt).toList ++ notices
    if holds && f.isEmpty then
      (some (.ofCondition f.name finding.condition),
        before ++ [.requiredEmpty f.name finding.condition])
    else (none, before)

/-- The violations of a forest in the order of its fields, each before its own. -/
def validate (v : Validator) (forest : List Field) : List Violation × List Notice :=
  let fields := flattenAll forest
  let checked := fields.map (v.checkField fields)
  (checked.filterMap (·.1), checked.flatMap (·.2))

end Validator

end RequiredFields
