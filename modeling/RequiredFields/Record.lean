/-!
# Records

A record is a list of fields in order. A field may have fields of its own, so that records nest to
any depth.
-/

namespace RequiredFields

/-- A field of a record. -/
structure Field where
  /-- The name that conditions refer to. -/
  name : String
  /-- The value; there is none when the field was never filled in. -/
  value : Option String := none
  /-- A free text, which may carry directives. -/
  description : Option String := none
  /-- The fields of the field. -/
  children : List Field := []
  deriving BEq, Repr, Inhabited

namespace Field

/-- The value, or the empty text. -/
def text (f : Field) : String :=
  f.value.getD ""

/-- Whether the value is absent or empty. -/
def isEmpty (f : Field) : Bool :=
  f.text.isEmpty

/-- Whether the field has fields of its own. -/
def isGroup (f : Field) : Bool :=
  !f.children.isEmpty

end Field

/-- A record: its fields at top level. -/
structure Record where
  /-- The fields at top level. -/
  fields : List Field := []
  deriving BEq, Repr, Inhabited

mutual

/-- A field and all fields below it, each before its own. -/
def Field.flatten : Field → List Field
  | ⟨name, value, description, children⟩ =>
    ⟨name, value, description, children⟩ :: flattenAll children

/-- All fields of a forest at any depth, each before its own. -/
def flattenAll : List Field → List Field
  | [] => []
  | f :: fields => f.flatten ++ flattenAll fields

end

/-- The first field with exactly the given name. -/
def findField? (fields : List Field) (name : String) : Option Field :=
  fields.find? (·.name == name)

namespace Record

/-- All fields at any depth, each before its own. -/
def allFields (r : Record) : List Field :=
  flattenAll r.fields

end Record

end RequiredFields
