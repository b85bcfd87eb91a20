import RequiredFields.Configuration.Surroundings
import RequiredFields.Settings

/-!
# The configuration of the command

The configuration says how to validate and how to print. It is put together from a file and from
environment variables, which win; a file of assignments can set variables that are not set. Where
the configuration file is broken, the command goes on with the default configuration; what the
sources say is checked in any case.
-/

namespace RequiredFields

/-- The configuration of the command. -/
structure Configuration where
  /-- How to validate. -/
  settings : Settings := {}
  /-- Whether the report is printed in several lines. -/
  pretty : Bool := false
  deriving DecidableEq, Repr

namespace Configuration

/-- Why there is no configuration. -/
inductive Fault where
  /-- A source cannot be read. -/
  | unreadable
  /-- A source says something that a configuration cannot be. -/
  | wrongShape
  /-- The settings cannot be used. -/
  | unusable (fault : Settings.Fault)
  /-- The program breaks down. -/
  | breakdown
  deriving DecidableEq, Repr

/-- A value that may be missing. -/
def valueOr? {α : Type} (default : α) (read : Tree → Option α) : Option Tree → Option α
  | none => some default
  | some t => read t

/-- The settings that a tree holds: a table, or a list with the two settings in order. -/
def settingsOf? (t : Tree) : Option Settings := do
  let base : Settings := {}
  let (directive, numeric) ←
    match t with
    | .table entries => some (entries.lookup "directive", entries.lookup "numeric_comparison")
    | .list items => some (items[0]?, items[1]?)
    | _ => none
  return ⟨← valueOr? base.directive Tree.toText? directive,
    ← valueOr? base.numericComparison Tree.toBool? numeric⟩

/-- The configuration that a tree holds. -/
def ofTree? (t : Tree) : Option Configuration := do
  let settings ← valueOr? {} settingsOf? (t.entries.lookup "validator")
  let pretty ← valueOr? false Tree.toBool? (t.entries.lookup "pretty")
  return ⟨settings, pretty⟩

/-- The configuration that a file and variables say, unless it has a fault. -/
def ofSources (s : Surroundings) (file : List (String × Tree)) (environment : Environment) :
    Except Fault Configuration :=
  match s.treeOf? file environment with
  | none => .error .breakdown
  | some t =>
    match ofTree? t with
    | none => .error .wrongShape
    | some c =>
      match c.settings.check with
      | .error fault => .error (.unusable fault)
      | .ok _ => .ok c

/-- The configuration from the file that a path means and the environment variables. -/
def loadFrom (s : Surroundings) (path : String) : Except Fault Configuration :=
  match s.findFile? path with
  | none => .error .unreadable
  | some (format, content) =>
    match s.tableOf format content with
    | .error .broken => .error .unreadable
    | .error .breakdown => .error .breakdown
    | .ok file => ofSources s file s.environment

/-- The configuration from the usual file, if it exists, and the environment variables. The answer
says also whether the file was broken, so that the defaults stand. -/
def load (s : Surroundings) : Except Fault (Configuration × Bool) :=
  match s.fullEnvironment? with
  | none => .error .breakdown
  | some environment =>
    match s.usualTable with
    -- Only a broken file brings the defaults; a missing one leaves all to the variables.
    | .error .broken => .ok ({}, true)
    | .error .breakdown => .error .breakdown
    | .ok file => (ofSources s file environment).map fun c => (c, false)

end Configuration

end RequiredFields
