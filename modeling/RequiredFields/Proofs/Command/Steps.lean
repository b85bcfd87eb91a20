import RequiredFields.Command
import RequiredFields.Proofs.Json.Reading

/-!
# The steps of the command

The command loads its configuration, reads a text, reads the record in it and makes a validator.
There is a report exactly where all of these steps succeed (`report_of_succeeds`,
`succeeds_of_report`). A fault of the report itself means that the configuration was loaded and the
text was read (`exists_of_report_eq_error`).
-/

namespace RequiredFields

open Json (exists_of_bind_eq_ok)

/-- A result is not a fault, whatever the faults are renamed to. -/
theorem eq_ok_of_mapError {ε ε' α : Type} {rename : ε → ε'} {x : Except ε α} {a : α}
    (h : x.mapError rename = .ok a) : x = .ok a := by
  cases x with
  | error e => contradiction
  | ok a' => rw [Except.ok.inj h]

/-- A fault is the fault of the first part or, where that has a result, of the second. -/
theorem eq_error_of_bind {ε α β : Type} {x : Except ε α} {f : α → Except ε β} {e : ε}
    (h : x >>= f = .error e) : x = .error e ∨ ∃ a, x = .ok a ∧ f a = .error e := by
  cases x with
  | error e' => exact .inl (congrArg _ (Except.error.inj h))
  | ok a => exact .inr ⟨a, rfl, h⟩

/-- A fault that has another name was a fault before. -/
theorem exists_of_mapError_eq_error {ε ε' α : Type} {rename : ε → ε'} {x : Except ε α} {e' : ε'}
    (h : x.mapError rename = .error e') : ∃ e, x = .error e ∧ rename e = e' := by
  cases x with
  | error e => exact ⟨e, rfl, Except.error.inj h⟩
  | ok a => contradiction

namespace Report

/-- A record that is read is validated. -/
theorem check_of_readRecord {text : String} {source : Option String} {s : Settings}
    {record : Record} {v : Validator} (hrecord : readRecord (.ofSource source) text = .ok record)
    (hv : Validator.ofSettings s = .ok v) :
    ∃ notices, check text source s = .ok ((v.validate record.fields).1, notices) := by
  unfold check
  rw [hrecord, hv]
  exact ⟨_, rfl⟩

/-- There is no report on a record that cannot be read. -/
theorem check_of_refused {text : String} {source : Option String} {fault : Fault}
    (h : readRecord (.ofSource source) text = .error fault) (s : Settings) :
    check text source s = .error fault := by
  unfold check
  rw [h]
  rfl

/-- A report is about a record that was read, and made by the validator of the settings. -/
theorem exists_of_check_eq_ok {text : String} {source : Option String} {s : Settings}
    {violations : List Violation} {notices : List Notice}
    (h : check text source s = .ok (violations, notices)) :
    ∃ record v, readRecord (.ofSource source) text = .ok record ∧
      Validator.ofSettings s = .ok v ∧ (v.validate record.fields).1 = violations := by
  obtain ⟨record, hrecord, h⟩ := exists_of_bind_eq_ok h
  obtain ⟨v, hv, h⟩ := exists_of_bind_eq_ok h
  exact ⟨record, v, hrecord, eq_ok_of_mapError hv, (Prod.mk.inj (Except.ok.inj h)).1⟩

end Report

namespace Command

/-- The text of a report in the layout that the configuration asks for. -/
def printed (c : Configuration) (violations : List Violation) : String :=
  if c.pretty then (Report.toJson violations).pretty else (Report.toJson violations).compact

/-- All steps of the command succeed: with the configuration `c` the record `record` is read, and
`v` is the validator of the settings. -/
structure Succeeds (s : Configuration.Surroundings) (source : Source) (c : Configuration)
    (record : Record) (v : Validator) : Prop where
  /-- The configuration is loaded, or the defaults stand. -/
  loaded : ∃ broken, Configuration.load s = .ok (c, broken)
  /-- The record is read from the text of its source, in the format that its path tells. -/
  read : ∃ text path, source.read = .ok (text, path) ∧
    Report.readRecord (.ofSource path) text = .ok record
  /-- The settings have no fault. -/
  validator : Validator.ofSettings c.settings = .ok v

variable {s : Configuration.Surroundings} {source : Source}

/-- Where all steps succeed there is a report. -/
theorem report_of_succeeds {c : Configuration} {record : Record} {v : Validator}
    (h : Succeeds s source c record v) :
    report s source =
      .ok ((v.validate record.fields).1, printed c (v.validate record.fields).1) := by
  obtain ⟨⟨broken, hload⟩, ⟨text, path, hread, hrecord⟩, hv⟩ := h
  obtain ⟨notices, hcheck⟩ := Report.check_of_readRecord hrecord hv
  unfold report
  rw [hload, hread]
  simp only [Except.mapError, bind, Except.bind, hcheck]
  rfl

/-- Where there is a report all steps succeeded. -/
theorem succeeds_of_report {violations : List Violation} {text : String}
    (h : report s source = .ok (violations, text)) :
    ∃ c record v, Succeeds s source c record v := by
  obtain ⟨⟨c, broken⟩, hload, h⟩ := exists_of_bind_eq_ok h
  obtain ⟨⟨content, path⟩, hread, h⟩ := exists_of_bind_eq_ok h
  obtain ⟨⟨_, notices⟩, hcheck, h⟩ := exists_of_bind_eq_ok h
  obtain ⟨record, v, hrecord, hv, -⟩ := Report.exists_of_check_eq_ok (eq_ok_of_mapError hcheck)
  exact ⟨c, record, v, ⟨broken, eq_ok_of_mapError hload⟩, ⟨content, path, hread, hrecord⟩, hv⟩

/-- A text that cannot be read is not a matter of the report. -/
theorem Source.read_ne_report (source : Source) (fault : Report.Fault) :
    source.read ≠ .error (.report fault) := by
  cases source with
  | file path content => cases h : content.bind Octets.toText? <;> simp [Source.read, h]
  | input content => cases h : content.bind Octets.toText? <;> simp [Source.read, h]
  | garbled => simp [Source.read]

/-- A fault of the report itself is found when the configuration is loaded and the text is read. -/
theorem exists_of_report_eq_error {fault : Report.Fault}
    (h : report s source = .error (.report fault)) :
    ∃ c broken text path, Configuration.load s = .ok (c, broken) ∧
      source.read = .ok (text, path) ∧ Report.check text path c.settings = .error fault := by
  -- The first step that fails gives the fault, and only the check has faults of this kind.
  rcases eq_error_of_bind h with h | ⟨⟨c, broken⟩, hload, h⟩
  · obtain ⟨_, -, hfault⟩ := exists_of_mapError_eq_error h
    contradiction
  rcases eq_error_of_bind h with h | ⟨⟨text, path⟩, hread, h⟩
  · exact absurd h (source.read_ne_report fault)
  rcases eq_error_of_bind h with h | ⟨_, -, h⟩
  · obtain ⟨_, hcheck, hfault⟩ := exists_of_mapError_eq_error h
    obtain rfl := Fault.report.inj hfault
    exact ⟨c, broken, text, path, eq_ok_of_mapError hload, hread, hcheck⟩
  · contradiction

/-- The command ends with the fault of its report. -/
theorem report_of_fault {fault : Fault} (h : (run s source).fault = some fault) :
    report s source = .error fault := by
  unfold run at h
  cases hreport : report s source with
  | error fault' =>
    rw [hreport] at h
    rw [Option.some.inj h]
  | ok result =>
    rw [hreport] at h
    contradiction

end Command

end RequiredFields
