import Mathlib
import RequiredFields.Proofs.Command.Steps
import RequiredFields.Proofs.Configuration.Loading
import RequiredFields.Proofs.Report.Lines

/-!
# What the command prints

The command prints a whole report or nothing, and its status says whether there was something to
report (`run_faithful`). The report is printed in one line or in several, and read back it gives the
same lines either way (`linesOfJson_printed`).
-/

namespace RequiredFields.Command

open Json

/-- A report is printed in the layout that the configuration asks for. -/
theorem exists_printed_eq_writeIn (c : Configuration) (violations : List Violation) :
    ∃ l, printed c violations = .ofList ((Report.toJson violations).writeIn l 0) := by
  unfold printed
  split
  · exact ⟨.pretty, by rw [Value.pretty, Value.writeLines_eq_writeIn]⟩
  · exact ⟨.compact, by rw [Value.compact, Value.write_eq_writeIn]⟩

/-- A printed report is read back line by line, whatever blanks follow it. -/
theorem linesOfJson_printed (c : Configuration) (violations : List Violation) {after : List Char}
    (hafter : IsGap after) :
    Report.linesOfJson (printed c violations ++ .ofList after) =
      .ok (violations.map fun x => ⟨x.field, x.message⟩) := by
  obtain ⟨l, hprinted⟩ := exists_printed_eq_writeIn c violations
  have hread := Report.linesOfJson_written violations l (List.forall_mem_nil _) hafter
  rwa [List.nil_append, String.ofList_append, ← hprinted] at hread

variable {s : Configuration.Surroundings} {source : Source}

/-- Where all steps succeed, the command prints the report and a new line. -/
theorem run_of_succeeds {c : Configuration} {record : Record} {v : Validator}
    (h : Succeeds s source c record v) :
    run s source = ⟨if (v.validate record.fields).1.isEmpty then 0 else 1,
      printed c (v.validate record.fields).1 ++ "\n", none⟩ := by
  unfold run
  rw [report_of_succeeds h]

/-- Where a step fails, the command prints nothing and says so by its status. -/
theorem run_of_not_succeeds (h : ¬ ∃ c record v, Succeeds s source c record v) :
    ∃ fault : Fault, run s source = { status := fault.status, fault := some fault } := by
  unfold run
  cases hreport : report s source with
  | error fault => exact ⟨fault, rfl⟩
  | ok result => exact absurd (succeeds_of_report hreport) h

/-- A fault has one of two statuses. -/
theorem Fault.status_eq_or (fault : Fault) : fault.status = 1 ∨ fault.status = 101 := by
  unfold status
  split
  · exact .inl rfl
  · exact .inr rfl

end RequiredFields.Command
