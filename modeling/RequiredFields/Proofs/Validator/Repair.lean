import RequiredFields.Proofs.Record.Edits
import RequiredFields.Proofs.Validator.Decision

/-!
# Filling in what is reported

A record is repaired step by step: a field that is reported gets a value, and the record is
validated again. The reports need not get shorter on the way, since a filled field can be the target
of others. What falls with every step, by exactly one, is the number of empty fields that carry the
directive (`waiting_of_repair`): a reported field is one of them, and no step empties a field. So
every run of repairs is short (`waiting_of_repairs`), and it can go on as long as something is
reported (`validate_eq_nil_iff`).
-/

namespace RequiredFields.Validator

variable {v : Validator} {forest repaired : List Field}

/-- Whether the field is empty and carries the directive. -/
def awaits (v : Validator) (f : Field) : Bool :=
  f.isEmpty && f.description.any v.directive.isIn

/-- The number of empty fields of a forest that carry the directive. -/
def waiting (v : Validator) (forest : List Field) : Nat :=
  (occurrences forest).countP fun o => v.awaits o.2

/-- A repair: a field that is reported gets a value that is not empty. -/
inductive Repair (v : Validator) (forest : List Field) : List Field → Prop where
  /-- The field at a path gets a value. -/
  | fill {path : Path} {x : Violation} {value : String}
    (hreported : v.violationAt? forest path = some x) (hvalue : value ≠ "") :
    v.Repair forest (setValue (some value) forest path)

/-- A number of repairs, one after the other. -/
inductive Repairs (v : Validator) (forest : List Field) : Nat → List Field → Prop where
  /-- None. -/
  | none : v.Repairs forest 0 forest
  /-- Some repairs, and then another one. -/
  | step {n : Nat} {between repaired : List Field} (h : v.Repairs forest n between)
    (hstep : v.Repair between repaired) : v.Repairs forest (n + 1) repaired

/-! ## One repair -/

/-- A field has a condition if it carries the directive. -/
theorem isSome_conditionOf? (v : Validator) (f : Field) :
    (v.conditionOf? f).isSome = f.description.any v.directive.isIn := by
  unfold conditionOf?
  cases f.description with
  | none => rfl
  | some description => exact Directive.isSome_condition? v.directive description

/-- A field that is reported is empty and carries the directive. -/
theorem awaits_of_violationAt? {path : Path} {x : Violation}
    (h : v.violationAt? forest path = some x) :
    ∃ g, fieldAt? forest path = some g ∧ v.awaits g = true := by
  obtain ⟨g, hg, hx⟩ := Option.bind_eq_some_iff.1 h
  refine ⟨g, hg, ?_⟩
  rw [checkField_eq, Option.ite_none_right_eq_some, Bool.and_eq_true] at hx
  obtain ⟨⟨-, hempty⟩, hx⟩ := hx
  have hcarries : (v.conditionOf? g).isSome = true := by
    rw [← Option.isSome_map, hx]
    rfl
  rw [awaits, hempty, ← isSome_conditionOf?, hcarries]
  rfl

/-- Which fields wait does not depend on how they are nested. -/
theorem waiting_eq_countP_rows (v : Validator) (forest : List Field) :
    v.waiting forest = (rows forest).countP fun row => v.awaits row.2 := by
  rw [waiting, rows, rowsFrom, List.countP_map]
  rfl

/-- When a field that waits gets a value, one field less waits. -/
theorem waiting_setValue {path : Path} {g : Field} (hg : fieldAt? forest path = some g)
    (hawaits : v.awaits g = true) {value : String} (hvalue : value ≠ "") :
    v.waiting (setValue (some value) forest path) + 1 = v.waiting forest := by
  obtain ⟨before, after, hrows, hrows'⟩ :=
    rows_editField hg (fun f => { f with value := some value }) rfl
  have hbefore : v.awaits g.alone = true := hawaits
  have hafter : v.awaits { g with value := some value }.alone = false := by
    have hfilled : ({ g with value := some value } : Field).alone.isEmpty = false := by
      simpa [Field.isEmpty, Field.text, Field.alone] using hvalue
    rw [awaits, hfilled, Bool.false_and]
  -- A single row differs; it counts before the edit and not behind it.
  rw [waiting_eq_countP_rows, waiting_eq_countP_rows, setValue, hrows, hrows']
  simp only [List.countP_append, List.countP_cons, hbefore, hafter, if_true, Bool.false_eq_true,
    if_false]
  omega

/-- With every repair one field less waits. -/
theorem waiting_of_repair (h : v.Repair forest repaired) :
    v.waiting repaired + 1 = v.waiting forest := by
  obtain ⟨hreported, hvalue⟩ := h
  obtain ⟨g, hg, hawaits⟩ := awaits_of_violationAt? hreported
  exact waiting_setValue hg hawaits hvalue

/-- Nothing is reported exactly if no repair is possible. -/
theorem validate_eq_nil_iff (v : Validator) (forest : List Field) :
    (v.validate forest).1 = [] ↔ ∀ repaired, ¬ v.Repair forest repaired := by
  rw [validate_eq_filterMap_violationAt?, List.filterMap_eq_nil_iff]
  constructor
  · rintro h - ⟨hreported, -⟩
    obtain ⟨g, hg, -⟩ := awaits_of_violationAt? hreported
    rw [h _ (mem_occurrences.2 hg)] at hreported
    contradiction
  · intro h o _
    rw [Option.eq_none_iff_forall_ne_some]
    intro x hreported
    -- Any text that is not empty would do.
    have hvalue : "x" ≠ "" := by decide
    exact h _ (.fill hreported hvalue)

/-! ## Runs of repairs -/

/-- Each repair of a run takes one from the number of fields that wait. -/
theorem waiting_of_repairs {n : Nat} (h : v.Repairs forest n repaired) :
    n + v.waiting repaired = v.waiting forest := by
  induction h with
  | none => exact Nat.zero_add _
  | step _ hstep ih =>
    have := waiting_of_repair hstep
    omega

/-- A run of repairs and one behind it are a run. -/
theorem Repairs.trans {n m : Nat} {between : List Field} (h : v.Repairs forest n between)
    (h' : v.Repairs between m repaired) : v.Repairs forest (n + m) repaired := by
  induction h' with
  | none => exact h
  | step _ hstep ih => exact ih.step hstep

/-- Every forest can be repaired until nothing is reported. -/
theorem exists_repairs (v : Validator) (forest : List Field) :
    ∃ n repaired, v.Repairs forest n repaired ∧ (v.validate repaired).1 = [] := by
  -- The induction is on the number of fields that wait, for all forests.
  induction hwaiting : v.waiting forest using Nat.strong_induction_on generalizing forest with
  | _ k ih =>
    by_cases hnil : (v.validate forest).1 = []
    · exact ⟨0, forest, .none, hnil⟩
    · rw [validate_eq_nil_iff] at hnil
      push Not at hnil
      obtain ⟨between, hstep⟩ := hnil
      have hlt : v.waiting between < k := by
        have := waiting_of_repair hstep
        omega
      obtain ⟨n, repaired, hrun, hclean⟩ := ih _ hlt between rfl
      exact ⟨1 + n, repaired, (Repairs.none.step hstep).trans hrun, hclean⟩

/-- However the reported fields and their values are chosen, repairing ends. A step takes a field
that is reported, one of those that the report goes through, and gives it a value that is not empty.
Each step takes one from the number of empty fields that carry the directive, so there are no more
steps than such fields at the start. When no further step is possible, nothing is reported; as long
as one is possible, the run can go on to that end. -/
theorem repairs_converge {n : Nat} (h : v.Repairs forest n repaired) :
    (∀ a, (v.validate a).1 = (occurrences a).filterMap fun o => v.violationAt? a o.1) ∧
    n + v.waiting repaired = v.waiting forest ∧ n ≤ v.waiting forest ∧
    ((∀ next, ¬ v.Repair repaired next) → (v.validate repaired).1 = []) ∧
    ∃ m final, v.Repairs repaired m final ∧ n + m ≤ v.waiting forest ∧
      (v.validate final).1 = [] := by
  have hcount := waiting_of_repairs h
  obtain ⟨m, final, hrun, hclean⟩ := exists_repairs v repaired
  have hrest := waiting_of_repairs hrun
  refine ⟨validate_eq_filterMap_violationAt? v, hcount, by omega, ?_, m, final, hrun, by omega,
    hclean⟩
  exact (validate_eq_nil_iff v repaired).2

/-- Of two fields that need each other one is reported, and filling it in makes the other one
needed, so that the report does not get shorter. After two steps nothing is reported. -/
theorem repairs_converge_cyclic :
    let v : Validator := {}
    let forest : List Field := [⟨"a", none, some "$mandatoryIf(b=)",
      [⟨"b", some "", some "$mandatoryIf(a!=)", []⟩]⟩]
    let filled := setValue (some "1") forest [0]
    let repaired := setValue (some "2") filled [0, 0]
    v.Repairs forest 2 repaired ∧ v.waiting forest = 2 ∧
      (v.validate forest).1 = [.mandatoryIf "a" "b" .eq ""] ∧
      (v.validate filled).1 = [.mandatoryIf "b" "a" .ne ""] ∧ 2 ≤ v.waiting forest ∧
      (v.validate repaired).1 = [] := by
  intro v forest filled repaired
  have hfirst : v.violationAt? forest [0] = some (.mandatoryIf "a" "b" .eq "") := by decide +kernel
  have hsecond : v.violationAt? filled [0, 0] = some (.mandatoryIf "b" "a" .ne "") := by
    decide +kernel
  have hrun : v.Repairs forest 2 repaired :=
    (Repairs.none.step (.fill hfirst (by decide))).step (.fill hsecond (by decide))
  have hwaiting : v.waiting forest = 2 := by decide +kernel
  obtain ⟨-, -, hle, -⟩ := repairs_converge hrun
  exact ⟨hrun, hwaiting, by decide +kernel, by decide +kernel, hle, by decide +kernel⟩

end RequiredFields.Validator
