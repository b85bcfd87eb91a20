import RequiredFields.Yaml.Node

/-!
# The shape of a document

Reading texts, truth values, lists and members from nodes. Nothing written, a plain scalar without
text, counts as an empty list and as a mapping without entries, and an absent document counts as
nothing written.
-/

namespace RequiredFields.Yaml

/-- The nesting of sequences and mappings that is read; what nobody asked for nests as deep as it
likes. -/
def maxDepth : Nat := 128

/-- The root of a document of version 1.1, where a text without a document has nothing written. -/
def rootOf (text : String) : Except Fault Node := do
  return (← documentOf? .v11 text).getD .empty

namespace Node

/-- The tag that marks a truth value. -/
def booleanTag : String := standardStem ++ "bool"

/-- The tag that marks the absence of a value. -/
def nullTag : String := standardStem ++ "null"

/-- The spellings of an absent value. -/
def isNullWord (text : String) : Bool :=
  ["null", "Null", "NULL", "~"].contains text

/-- Whether nothing is written here. -/
def isBare : Node → Bool
  | scalar _ .plain text => text.isEmpty
  | _ => false

/-- The text of a scalar, however it is written. -/
def text : Node → Except Fault String
  | scalar _ _ text => .ok text
  | _ => .error .wrongShape

/-- The text of a scalar, or none for an absent value. Only a plain scalar says that a value is
absent, and one with a tag only if the tag says so too. -/
def optionalText : Node → Except Fault (Option String)
  | scalar none .plain text => .ok (if text.isEmpty || isNullWord text then none else some text)
  | scalar (some tag) .plain text =>
    if tag.text = nullTag then (if isNullWord text then .ok none else .error .wrongShape)
    else .ok (some text)
  | scalar _ _ text => .ok (some text)
  | _ => .error .wrongShape

/-- The truth value that a text spells. -/
def booleanOf? (text : String) : Option Bool :=
  if ["true", "True", "TRUE"].contains text then some true
  else if ["false", "False", "FALSE"].contains text then some false
  else none

/-- A truth value: a plain scalar, or a literal block whose tag says so. -/
def boolean : Node → Except Fault Bool
  | scalar tag style text =>
    if style = .plain ∨ (style = .literal ∧ tag.map Tag.text = some booleanTag) then
      match booleanOf? text with
      | some b => .ok b
      | none => .error .wrongShape
    else .error .wrongShape
  | _ => .error .wrongShape

/-- The items of a list, each read while `depth` levels of nesting are left for it. -/
def list {α : Type} (depth : Nat) (item : Nat → Node → Except Fault α) (node : Node) :
    Except Fault (List α) :=
  match node, depth with
  | sequence items, depth + 1 => items.mapM (item depth)
  | node, _ => if node.isBare then .ok [] else .error .wrongShape

/-- The entries of a mapping, whose keys are scalars. -/
def members (node : Node) : Except Fault (List (String × Node)) :=
  match node with
  | mapping entries => entries.mapM fun (key, value) => do return (← key.text, value)
  | node => if node.isBare then .ok [] else .error .wrongShape

/-- The value of the member with the given name, of which there may be only one. -/
def member? (name : String) (members : List (String × Node)) : Except Fault (Option Node) :=
  match members.filter (·.1 == name) with
  | [] => .ok none
  | [(_, value)] => .ok (some value)
  | _ => .error .wrongShape

end Node

end RequiredFields.Yaml
