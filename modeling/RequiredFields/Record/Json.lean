import RequiredFields.Json.Value
import RequiredFields.Record

/-!
# Records in JSON

A record is an object with the member `fields`. A field is an object with the members `name`,
`value`, `description` and `children`, of which only the name is needed. Either may also be an array
of its members in that order, of which the last ones may be left out. Members with other names are
skipped.
-/

namespace RequiredFields

open Json

namespace Field

/-- The members of a field that were read so far. -/
structure Draft where
  /-- The member `name`, if it was there. -/
  name : Option String := none
  /-- The member `value`, if it was there. -/
  value : Option (Option String) := none
  /-- The member `description`, if it was there. -/
  description : Option (Option String) := none
  /-- The member `children`, if it was there. -/
  children : Option (List Field) := none

/-- A member of a field in its object form. -/
def readMember (children : Reader (List Field)) (draft : Draft) (name : String) : Reader Draft :=
  fun text => do
    if name = "name" then
      let (slot, rest) ← readOnce name draft.name readText text
      .ok ({ draft with name := slot }, rest)
    else if name = "value" then
      let (slot, rest) ← readOnce name draft.value (readOptional readText) text
      .ok ({ draft with value := slot }, rest)
    else if name = "description" then
      let (slot, rest) ← readOnce name draft.description (readOptional readText) text
      .ok ({ draft with description := slot }, rest)
    else if name = "children" then
      let (slot, rest) ← readOnce name draft.children children text
      .ok ({ draft with children := slot }, rest)
    else
      let (_, rest) ← skipMember text
      .ok (draft, rest)

/-- The object form of a field, behind its bracket. -/
def readObject (children : Reader (List Field)) : Reader Field := fun text => do
  let (draft, rest) ← readMembers readString (readMember children) {} true text
  match draft.name with
  | some name =>
    .ok (⟨name, draft.value.join, draft.description.join, draft.children.getD []⟩, rest)
  | none => .error (.mismatch (.missing "name"))

/-- The array form of a field, behind its bracket. -/
def readArray (children : Reader (List Field)) : Reader Field := fun text => do
  let (name, text) ← readElement? true readText text
  let some name := name | .error (.mismatch (.length 0 "struct Field with 4 elements"))
  let (value, text) ← readElement? false (readOptional readText) text
  let (description, text) ← readElement? false (readOptional readText) text
  let (children, text) ← readElement? false children text
  let rest ← closeArray text
  .ok (⟨name, value.join, description.join, children.getD []⟩, rest)

/-- A field whose children are read by `children` when it opens a bracket that is still allowed. -/
def read (children : Option (Reader (List Field))) : Reader Field := fun text =>
  match skipBlank text, children with
  | '[' :: _, none | '\x7b' :: _, none => .error .malformed
  | '[' :: rest, some children => readArray children rest
  | '\x7b' :: rest, some children => readObject children rest
  | rest, _ => .error (refuseKind "struct Field" rest)

/-- A list of fields that `depth` levels of nesting are left for: one for the list and one for each
field in it. -/
def readList : Nat → List Char → Except Refusal (List Field × List Char)
  | 0 => Json.readList 0 fun _ => read none
  | 1 => Json.readList 1 fun _ => read none
  | depth + 2 => Json.readList (depth + 2) fun _ => read (some (readList depth))

end Field

namespace Record

/-- A member of a record in its object form. -/
def readMember (depth : Nat) (slot : Option (List Field)) (name : String) :
    Reader (Option (List Field)) := fun text => do
  if name = "fields" then readOnce name slot (Field.readList depth) text
  else
    let (_, rest) ← skipMember text
    .ok (slot, rest)

/-- A record, `depth` levels of nesting being left. -/
def read (depth : Nat) : Reader Record := fun text =>
  match skipBlank text, depth with
  | '[' :: _, 0 | '\x7b' :: _, 0 => .error .malformed
  | '[' :: rest, depth + 1 => do
    let (fields, rest) ← readElement? true (Field.readList depth) rest
    let rest ← closeArray rest
    .ok (⟨fields.getD []⟩, rest)
  | '\x7b' :: rest, depth + 1 => do
    let (fields, rest) ← readMembers readString (readMember depth) none true rest
    .ok (⟨fields.getD []⟩, rest)
  | rest, _ => .error (refuseKind "struct Record" rest)

/-- The record that a text writes. -/
def ofJson (text : String) : Except Refusal Record :=
  readDocument (read maxDepth) text

end Record

/-! ## Writing -/

/-- A member for a value that is present. -/
def optionalMember (name : String) : Option String → List (String × Value)
  | none => []
  | some s => [(name, .string s)]

mutual

/-- The field as a JSON value; what is absent is left out. -/
def Field.toJson : Field → Value
  | ⟨name, value, description, children⟩ =>
    .object (("name", .string name) :: (optionalMember "value" value ++
      optionalMember "description" description ++
      match children with
      | [] => []
      | child :: children => [("children", .array (child.toJson :: fieldsToJson children))]))

/-- The fields of a list as JSON values. -/
def fieldsToJson : List Field → List Value
  | [] => []
  | f :: fields => f.toJson :: fieldsToJson fields

end

/-- The record as a JSON value. -/
def Record.toJson (r : Record) : Value :=
  .object [("fields", .array (fieldsToJson r.fields))]

end RequiredFields
