import RequiredFields.Text.Blank

/-!
# The list of values

Values are separated by commas; `\,` is a comma inside a value. Each value is trimmed, and a blank
text has no values.
-/

namespace RequiredFields.Directive

/-- The pieces between the commas that no backslash precedes: the first and the others. -/
def cutAtCommas : List Char → List Char × List (List Char)
  | [] => ([], [])
  | '\\' :: ',' :: text => let (piece, pieces) := cutAtCommas text; (',' :: piece, pieces)
  | ',' :: text => let (piece, pieces) := cutAtCommas text; ([], piece :: pieces)
  | c :: text => let (piece, pieces) := cutAtCommas text; (c :: piece, pieces)

/-- The values of a list of characters. -/
def splitValues (text : List Char) : List (List Char) :=
  if Text.isBlankText text then []
  else
    let (piece, pieces) := cutAtCommas text
    (piece :: pieces).map Text.trim

end RequiredFields.Directive
