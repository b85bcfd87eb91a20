import RequiredFields.Settings
import RequiredFields.Yaml.Shape

/-!
# Settings in YAML

Settings are a mapping with the keys `directive` and `numeric_comparison`, each of which may be
missing; other keys are passed over.
-/

namespace RequiredFields.Settings

open Yaml

/-- Why a text gives no settings. -/
inductive YamlFault where
  /-- The text is no YAML of the shape wanted. -/
  | unreadable (fault : Yaml.Fault)
  /-- The settings have a fault. -/
  | unusable (fault : Fault)
  deriving DecidableEq, Repr

/-- The settings that a node holds. -/
def ofNode (node : Node) : Except Yaml.Fault Settings := do
  let members ← node.members
  let base : Settings := {}
  let directive ←
    match ← Node.member? "directive" members with
    | none => pure base.directive
    | some node => node.text
  let numericComparison ←
    match ← Node.member? "numeric_comparison" members with
    | none => pure base.numericComparison
    | some node => node.boolean
  return ⟨directive, numericComparison⟩

/-- The settings that a text writes, unless they have a fault. -/
def ofYaml (text : String) : Except YamlFault Settings :=
  match rootOf text >>= ofNode with
  | .error e => .error (.unreadable e)
  | .ok s => s.check.mapError .unusable

end RequiredFields.Settings
