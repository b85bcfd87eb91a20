import RequiredFields.Record
import RequiredFields.Yaml.Shape

/-!
# Records in YAML

A record is a mapping with the key `fields`, a field one with the keys `name`, `value`,
`description` and `children`, of which only the name is needed. Other keys are passed over.
-/

namespace RequiredFields

open Yaml

namespace Field

/-- The value of a key that may be missing. -/
def optionalEntry (name : String) (members : List (String × Node)) :
    Except Fault (Option String) := do
  match ← Node.member? name members with
  | none => return none
  | some value => value.optionalText

/-- A field from the entries of its mapping. -/
def ofMembers (children : Node → Except Fault (List Field)) (members : List (String × Node)) :
    Except Fault Field := do
  let some name ← Node.member? "name" members | throw .wrongShape
  let value ← optionalEntry "value" members
  let description ← optionalEntry "description" members
  let children ←
    match ← Node.member? "children" members with
    | none => pure []
    | some node => children node
  return ⟨← name.text, value, description, children⟩

/-- A list of fields that `depth` levels of nesting are left for: one for the list and one for each
field in it. -/
def listOfNode : Nat → Node → Except Fault (List Field)
  | depth + 2 => Node.list (depth + 2) fun _ node => do
    ofMembers (listOfNode depth) (← node.members)
  | depth => Node.list depth fun _ _ => .error .wrongShape

end Field

namespace Record

/-- The record that a node holds. -/
def ofNode (node : Node) : Except Fault Record := do
  match ← Node.member? "fields" (← node.members) with
  | none => return ⟨[]⟩
  | some fields => return ⟨← Field.listOfNode (maxDepth - 1) fields⟩

/-- The record that a text writes. -/
def ofYaml (text : String) : Except Fault Record := do
  ofNode (← rootOf text)

end Record

end RequiredFields
