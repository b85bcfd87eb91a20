import RequiredFields.Record.Path
import RequiredFields.Report

/-!
# Sessions

A session keeps a validator and a record, and changes one of them step by step. A step that fails
changes nothing.
-/

namespace RequiredFields

/-- A validator and a record. -/
structure Session where
  /-- The validator. -/
  validator : Validator := {}
  /-- The record. -/
  record : Record := {}

namespace Session

/-- A change. -/
inductive Step where
  /-- None. -/
  | validate
  /-- Gives the field at a path another value, or none. -/
  | setValue (path : Path) (value : Option String)
  /-- Gives the field at a path another description, or none. -/
  | setDescription (path : Path) (description : Option String)
  /-- Gives the field at a path another name. -/
  | rename (path : Path) (name : String)
  /-- Gives the field at a path other children. -/
  | setChildren (path : Path) (children : List Field)
  /-- Adds a field behind the children of the field at a path. -/
  | push (path : Path) (field : Field)
  /-- Removes the field at a path. -/
  | remove (path : Path)
  /-- Replaces the validator. -/
  | configure (settings : Settings)
  /-- Replaces the record by the one that a text writes. -/
  | load (format : RecordFormat) (text : String)

/-- The session with other fields. -/
def withFields (s : Session) (fields : List Field) : Session :=
  { s with record := ⟨fields⟩ }

/-- The session after a step that does not fail. -/
def apply (s : Session) : Step → Except Report.Fault Session
  | .validate => .ok s
  | .setValue path value =>
    .ok (s.withFields (editField (fun f => { f with value }) s.record.fields path))
  | .setDescription path description =>
    .ok (s.withFields (editField (fun f => { f with description }) s.record.fields path))
  | .rename path name =>
    .ok (s.withFields (editField (fun f => { f with name }) s.record.fields path))
  | .setChildren path children =>
    .ok (s.withFields (editField (fun f => { f with children }) s.record.fields path))
  | .push path field => .ok (s.withFields (pushField field s.record.fields path))
  | .remove path => .ok (s.withFields (removeField s.record.fields path))
  | .configure settings =>
    match Validator.ofSettings settings with
    | .ok validator => .ok { s with validator }
    | .error fault => .error (.settings fault)
  | .load format text => (Report.readRecord format text).map fun record => { s with record }

/-- The session after a step, and the fault of the step if it failed. -/
def step (s : Session) (change : Step) : Session × Option Report.Fault :=
  match s.apply change with
  | .ok s => (s, none)
  | .error fault => (s, some fault)

/-- Whether each field has to be filled in, in the order of the fields. -/
def required (s : Session) : List Bool :=
  s.record.allFields.map fun f => (s.validator.isRequired f s.record.fields).1

/-- The violations of the record. -/
def violations (s : Session) : List Violation :=
  (s.validator.validate s.record.fields).1

end Session

end RequiredFields
