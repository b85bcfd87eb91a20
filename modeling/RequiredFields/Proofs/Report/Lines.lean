import RequiredFields.Proofs.Json.Reading
import RequiredFields.Report.Line

/-!
# Reports read back

A report is read back line by line, in whatever layout it is written (`linesOfJson_written`). Names
and messages may hold any characters: what is read of a written string is the string
(`reads_readText`).
-/

namespace RequiredFields.Report

open Json

namespace Line

/-- The name of the field is read from its member. -/
theorem readsMember_field (field : String) :
    ReadsMember readMember {} ("field", .string field) (.ok { field := some field }) := by
  intro l level rest
  have hread := readOnce_none (reads_readText field) "field" l level rest
  simp only [readMember, if_true, hread]
  rfl

/-- The message is read from its member. -/
theorem readsMember_message (field message : String) :
    ReadsMember readMember { field := some field } ("message", .string message)
      (.ok { field := some field, message := some message }) := by
  intro l level rest
  have hread := readOnce_none (reads_readText message) "message" l level rest
  simp only [readMember, if_true, hread]
  rfl

/-- Behind the name of the field the message is the last member. -/
theorem readsMembers_behindField (field message : String) :
    ReadsMembers readMember { field := some field } [("message", .string message)]
      (.ok { field := some field, message := some message }) :=
  (readsMember_message field message).cons fun draft _ => readsMembers_nil readMember draft

/-- The line for a violation is read back, if a level of nesting is left for it. -/
theorem reads_toReport (depth : Nat) (v : Violation) :
    Reads (read (depth + 1)) v.toReport (.ok (ofViolation v)) := by
  intro l level gap rest hgap
  obtain ⟨text, hwrite, hread⟩ := (readsMember_field v.field).object
    (fun draft hdraft => Except.ok.inj hdraft ▸ readsMembers_behindField v.field v.message) l level
    rest
  have hobject : readObject text = .ok (ofViolation v, rest) := by
    unfold readObject
    rw [hread]
    rfl
  unfold read
  rw [Violation.toReport, hwrite, skipBlank_append hgap rfl]
  exact hobject

end Line

/-- A written report is read back line by line, in every layout and with blanks around it. -/
theorem linesOfJson_written (violations : List Violation) (l : Layout) {before after : List Char}
    (hbefore : IsGap before) (hafter : IsGap after) :
    linesOfJson (.ofList (before ++ ((toJson violations).writeIn l 0 ++ after))) =
      .ok (violations.map Line.ofViolation) := by
  -- One of the brackets that may be open is that of the array, one that of a line.
  have hlines : Reads (readList maxDepth Line.read) (toJson violations)
      (violations.mapM fun v => Except.ok (Line.ofViolation v)) :=
    reads_readList fun v _ => ⟨trivial, Line.reads_toReport 125 v⟩
  have hall : (violations.mapM fun v => Except.ok (ε := Refusal) (Line.ofViolation v)) =
      .ok (violations.map Line.ofViolation) := List.mapM_pure
  rw [hall] at hlines
  exact hlines.document l hbefore hafter

-- Lines that were not written here: members in another order with one more among them, and an
-- array.
example :
    linesOfJson "[\x7b\"message\":\"m\",\"x\":[null],\"field\":\"a\"\x7d,[\"a\",\"m\"]]" =
      .ok [⟨"a", "m"⟩, ⟨"a", "m"⟩] := by
  cbv

end RequiredFields.Report
