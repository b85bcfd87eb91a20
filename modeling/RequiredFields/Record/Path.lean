import RequiredFields.Record

/-!
# Paths and edits

A path names a field by child indexes from the top level. Edits at a path that names no field leave
the forest as it is.
-/

namespace RequiredFields

/-- Child indexes from the top level. -/
abbrev Path := List Nat

/-- The field at a path. -/
def fieldAt? : List Field → Path → Option Field
  | _, [] => none
  | fields, [i] => fields[i]?
  | fields, i :: path => (fields[i]?).bind fun f => fieldAt? f.children path

/-- Applies `edit` to the list of fields that the path leads to: the top level for the empty path,
the children of the field at the path otherwise. -/
def editList (edit : List Field → List Field) : List Field → Path → List Field
  | fields, [] => edit fields
  | fields, i :: path =>
    fields.modify i fun f => { f with children := editList edit f.children path }

/-- Applies `edit` to the field at a path. -/
def editField (edit : Field → Field) (fields : List Field) (path : Path) : List Field :=
  match path.getLast? with
  | none => fields
  | some i => editList (·.modify i edit) fields path.dropLast

/-- The forest without the field at a path. -/
def removeField (fields : List Field) (path : Path) : List Field :=
  match path.getLast? with
  | none => fields
  | some i => editList (·.eraseIdx i) fields path.dropLast

/-- The forest with a field behind the last one of the list that the path leads to. -/
def pushField (field : Field) (fields : List Field) (path : Path) : List Field :=
  editList (· ++ [field]) fields path

end RequiredFields
