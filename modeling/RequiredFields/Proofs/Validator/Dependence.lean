import RequiredFields.Proofs.Record.Lookup
import RequiredFields.Proofs.Validator.Decision

/-!
# What a decision depends on

Whether a field has to be filled in, and what is reported for it, depends on the field alone and on
one value of the record: the one that is found under the name of the target. Two records that give
the same value for this name give the same decision (`isRequired_congr`) and the same report on the
field (`checkField_congr`), with the same notices.
-/

namespace RequiredFields.Validator

/-- The directive of the field compares the value of the first field with the given name. -/
def Targets (v : Validator) (f : Field) (name : String) : Prop :=
  ∃ op values, v.conditionOf? f = some (.comparing name op values)

/-- A field targets no name but that in its condition. -/
theorem Targets.eq {v : Validator} {f : Field} {name target : String} {op : Operator}
    {values : List String} (h : v.Targets f name)
    (hc : v.conditionOf? f = none ∨ v.conditionOf? f = some (.comparing target op values)) :
    name = target := by
  obtain ⟨op', values', hname⟩ := h
  rw [hname] at hc
  rcases hc with hc | hc
  · contradiction
  · exact Option.some.inj (Condition.mk.inj (Option.some.inj hc)).1

/-- A condition reads the value that is found under the name of its target. -/
theorem holds_eq (v : Validator) (c : Condition) (fields : List Field) :
    v.holds c fields =
      match c.target with
      | none => (c.holds v.comparison none, [])
      | some name =>
        match valueOf? fields name with
        | some value => (c.holds v.comparison value, [])
        | none => (false, [.targetMissing name]) := by
  unfold holds valueOf?
  cases c.target with
  | none => rfl
  | some name =>
    dsimp only
    cases findField? fields name <;> rfl

/-- Whether a condition holds is decided by the value of its target. -/
theorem holds_congr (v : Validator) {c : Condition} {a b : List Field}
    (h : ∀ name, c.target = some name → valueOf? a name = valueOf? b name) :
    v.holds c a = v.holds c b := by
  rw [holds_eq, holds_eq]
  cases htarget : c.target with
  | none => rfl
  | some name => simp only [h name htarget]

/-- Whether the condition of a field holds is decided by the value that the field targets. -/
theorem holds_finding_congr {v : Validator} {f : Field} {finding : Directive.Finding}
    (hf : v.findingOf? f = some finding) {a b : List Field}
    (h : ∀ name, v.Targets f name → valueOf? a name = valueOf? b name) :
    v.holds finding.condition a = v.holds finding.condition b := by
  have hc : v.conditionOf? f = some finding.condition := by
    rw [conditionOf?_eq, hf, Option.map_some]
  refine holds_congr v fun name hname => h name ?_
  obtain halways | ⟨target, op, values, hcomparing⟩ := conditionOf?_cases hc
  · rw [halways] at hname
    contradiction
  · rw [hcomparing] at hname hc
    obtain rfl := Option.some.inj hname
    exact ⟨op, values, hc⟩

/-- Fields with the same description carry the same directive. -/
theorem findingOf?_congr (v : Validator) {f f' : Field} (hd : f.description = f'.description) :
    v.findingOf? f = v.findingOf? f' := by
  unfold findingOf?
  rw [hd]

/-- Two forests that agree on the value that a field targets agree on whether it has to be filled
in. Of the field itself the description is read and nothing else. -/
theorem isRequired_congr {v : Validator} {f f' : Field} {a b : List Field}
    (hd : f.description = f'.description)
    (h : ∀ name, v.Targets f name →
      valueOf? (flattenAll a) name = valueOf? (flattenAll b) name) :
    v.isRequired f a = v.isRequired f' b := by
  unfold isRequired
  rw [← findingOf?_congr v hd]
  cases hf : v.findingOf? f with
  | none => rfl
  | some finding => simp only [holds_finding_congr hf h]

/-- Two lists of fields that agree on the value that a field targets give the same report on it. Of
the field itself the name, the description and whether it is empty are read. -/
theorem checkField_congr {v : Validator} {f f' : Field} {a b : List Field}
    (hn : f.name = f'.name) (hd : f.description = f'.description) (he : f.isEmpty = f'.isEmpty)
    (h : ∀ name, v.Targets f name → valueOf? a name = valueOf? b name) :
    v.checkField a f = v.checkField b f' := by
  unfold checkField
  rw [← findingOf?_congr v hd]
  cases hf : v.findingOf? f with
  | none => rfl
  | some finding => simp only [holds_finding_congr hf h, hn, he]

/-- The report on a field does not read its children. -/
theorem checkField_alone (v : Validator) (fields : List Field) (f : Field) :
    v.checkField fields f.alone = v.checkField fields f :=
  checkField_congr rfl rfl rfl fun _ _ => rfl

/-- The reports on the fields of a list do not read their children. -/
theorem map_checkField_alone (v : Validator) (fields checked : List Field) :
    (checked.map Field.alone).map (v.checkField fields) = checked.map (v.checkField fields) := by
  rw [List.map_map]
  exact List.map_congr_left fun f _ => checkField_alone v fields f

/-- Lists of fields that agree apart from the children of the fields have the same violations. -/
theorem filterMap_checkField_congr (v : Validator) (fields : List Field) {a b : List Field}
    (h : a.map Field.alone = b.map Field.alone) :
    a.filterMap (fun f => (v.checkField fields f).1) =
      b.filterMap fun f => (v.checkField fields f).1 := by
  have hmap : a.map (v.checkField fields) = b.map (v.checkField fields) := by
    rw [← map_checkField_alone, h, map_checkField_alone]
  calc a.filterMap (fun f => (v.checkField fields f).1)
      = (a.map (v.checkField fields)).filterMap (·.1) := (List.filterMap_map ..).symm
    _ = (b.map (v.checkField fields)).filterMap (·.1) := by rw [hmap]
    _ = b.filterMap (fun f => (v.checkField fields f).1) := List.filterMap_map ..

end RequiredFields.Validator
