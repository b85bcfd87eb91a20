import RequiredFields.Report

/-!
# The lines of a report

A report is an array with a line for each violation: an object with the members `field` and
`message`, both needed, or an array of the two. Members with other names are skipped.
-/

namespace RequiredFields.Report

open Json

/-- A line of a report. -/
structure Line where
  /-- The name of the field. -/
  field : String
  /-- What is said about it. -/
  message : String
  deriving DecidableEq, Repr

namespace Line

/-- The line for a violation. -/
def ofViolation (v : Violation) : Line :=
  ⟨v.field, v.message⟩

/-- The members of a line that were read so far. -/
structure Draft where
  /-- The member `field`, if it was there. -/
  field : Option String := none
  /-- The member `message`, if it was there. -/
  message : Option String := none

/-- A member of a line in its object form. -/
def readMember (draft : Draft) (name : String) : Reader Draft := fun text => do
  if name = "field" then
    let (slot, rest) ← readOnce name draft.field readText text
    .ok ({ draft with field := slot }, rest)
  else if name = "message" then
    let (slot, rest) ← readOnce name draft.message readText text
    .ok ({ draft with message := slot }, rest)
  else
    let (_, rest) ← skipMember text
    .ok (draft, rest)

/-- The object form of a line, behind its bracket. -/
def readObject : Reader Line := fun text => do
  let (draft, rest) ← readMembers readString readMember {} true text
  match draft.field, draft.message with
  | some field, some message => .ok (⟨field, message⟩, rest)
  | none, _ => .error (.mismatch (.missing "field"))
  | some _, none => .error (.mismatch (.missing "message"))

/-- What an array of too few elements is short of. -/
def arrayForm : String := "struct Violation with 2 elements"

/-- The array form of a line, behind its bracket. -/
def readArray : Reader Line := fun text => do
  let (field, text) ← readElement? true readText text
  let some field := field | .error (.mismatch (.length 0 arrayForm))
  let (message, text) ← readElement? false readText text
  let some message := message | .error (.mismatch (.length 1 arrayForm))
  let rest ← closeArray text
  .ok (⟨field, message⟩, rest)

/-- A line, `depth` levels of nesting being left. -/
def read (depth : Nat) : Reader Line := fun text =>
  match skipBlank text, depth with
  | '[' :: _, 0 | '\x7b' :: _, 0 => .error .malformed
  | '[' :: rest, _ + 1 => readArray rest
  | '\x7b' :: rest, _ + 1 => readObject rest
  | rest, _ => .error (refuseKind "struct Violation" rest)

end Line

/-- The lines of the report that a text writes. -/
def linesOfJson (text : String) : Except Refusal (List Line) :=
  readDocument (readList maxDepth Line.read) text

end RequiredFields.Report
