import RequiredFields.Configuration
import RequiredFields.Report

/-!
# The command

The command loads its configuration, reads a record from a file or from its standard input, and
prints the violations. It succeeds when there are none.
-/

namespace RequiredFields.Command

/-- Where the record comes from. -/
inductive Source where
  /-- The file with the given path, and its content if it can be read. -/
  | file (path : String) (content : Option Octets)
  /-- Standard input, if it can be read. -/
  | input (content : Option Octets)
  /-- An argument that is no text, be it the name of the program or the path of the record. -/
  | garbled

/-- Why the command ends without a report. -/
inductive Fault where
  /-- There is no configuration. -/
  | configuration (fault : Configuration.Fault)
  /-- The record cannot be read from the file with the given path. -/
  | unreadableFile (path : String)
  /-- The record cannot be read from standard input. -/
  | unreadableInput
  /-- An argument is no text, which breaks the program down. -/
  | garbledArgument
  /-- There is no report. -/
  | report (fault : Report.Fault)
  deriving DecidableEq, Repr

namespace Fault

/-- What is wrong, without the details of a refused text; nothing where the program breaks down. -/
def message? : Fault → Option String
  | configuration .unreadable => some "Failed to read config"
  | configuration .wrongShape => some "Failed to deserialize config"
  | configuration (.unusable fault) => some fault.message
  | configuration .breakdown => none
  | unreadableFile path => some ("Failed to read record " ++ path)
  | unreadableInput => some "Failed to read record from stdin"
  | garbledArgument => none
  | report fault => some fault.message

/-- The exit status, which tells a breakdown from what has a message. -/
def status (fault : Fault) : Nat :=
  if fault.message?.isSome then 1 else 101

end Fault

/-- How the command ends. -/
structure Outcome where
  /-- The exit status. -/
  status : Nat
  /-- What it prints. -/
  output : String := ""
  /-- Why it failed, if it did. -/
  fault : Option Fault := none
  deriving DecidableEq, Repr

/-- The text of the record, and the path that tells its format. -/
def Source.read : Source → Except Fault (String × Option String)
  | file path content =>
    match content.bind Octets.toText? with
    | some text => .ok (text, some path)
    | none => .error (.unreadableFile path)
  | input content =>
    match content.bind Octets.toText? with
    | some text => .ok (text, none)
    | none => .error .unreadableInput
  | garbled => .error .garbledArgument

/-- The violations of the record and the text of the report, in the surroundings of the command. -/
def report (s : Configuration.Surroundings) (source : Source) :
    Except Fault (List Violation × String) := do
  let (configuration, _) ← (Configuration.load s).mapError .configuration
  let (text, path) ← source.read
  let (violations, _) ← (Report.check text path configuration.settings).mapError .report
  let value := Report.toJson violations
  return (violations, if configuration.pretty then value.pretty else value.compact)

/-- Runs the command. -/
def run (s : Configuration.Surroundings) (source : Source) : Outcome :=
  match report s source with
  | .error fault => { status := fault.status, fault := some fault }
  | .ok (violations, text) => ⟨if violations.isEmpty then 0 else 1, text ++ "\n", none⟩

end RequiredFields.Command
