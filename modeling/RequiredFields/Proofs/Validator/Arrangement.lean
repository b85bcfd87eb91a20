import RequiredFields.Proofs.Validator.Dependence

/-!
# The arrangement of the fields

The report on a record does not depend on how its fields are grouped, and its violations are the
same in every order of the fields in which each name that a directive targets occurs at most once
(`validate_arrangement`). Both follow from the list of the reports on the single fields: no report
reads the children of its field, and each reads one value of the record (`reports_eq`).
-/

namespace RequiredFields

/-- What a field holds apart from its children: its name, value and description. -/
def Field.content (f : Field) : String × Option String × Option String :=
  (f.name, f.value, f.description)

/-- A field without its children is determined by its content. -/
theorem map_alone_eq (fields : List Field) :
    fields.map Field.alone = (fields.map Field.content).map fun c => ⟨c.1, c.2.1, c.2.2, []⟩ := by
  rw [List.map_map]
  rfl

namespace Validator

/-- The reports on the fields of a forest, one after the other. -/
def reports (v : Validator) (forest : List Field) : List (Option Violation × List Notice) :=
  (flattenAll forest).map (v.checkField (flattenAll forest))

/-- The report on a forest consists of those on its fields. -/
theorem validate_eq_reports (v : Validator) (forest : List Field) :
    v.validate forest = ((v.reports forest).filterMap (·.1), (v.reports forest).flatMap (·.2)) :=
  rfl

/-- The reports on the fields of a forest may look values up in another forest that agrees on every
value that is targeted, and they read no children. -/
theorem reports_eq {v : Validator} {a b : List Field}
    (h : ∀ f ∈ flattenAll a, ∀ name, v.Targets f name →
      valueOf? (flattenAll a) name = valueOf? (flattenAll b) name) :
    v.reports a = ((flattenAll a).map Field.alone).map (v.checkField (flattenAll b)) := by
  rw [map_checkField_alone]
  exact List.map_congr_left fun f hf => checkField_congr rfl rfl rfl (h f hf)

/-- If two forests have the same fields in pre-order, apart from their children, the reports on them
are the same. -/
theorem reports_congr {v : Validator} {a b : List Field}
    (h : (flattenAll a).map Field.alone = (flattenAll b).map Field.alone) :
    v.reports a = v.reports b := by
  have hlookup : ∀ f ∈ flattenAll a, ∀ name, v.Targets f name →
      valueOf? (flattenAll a) name = valueOf? (flattenAll b) name := by
    intro f _ name _
    rw [← valueOf?_map_alone, h, valueOf?_map_alone]
  rw [reports_eq hlookup, h, map_checkField_alone]
  rfl

/-- If two forests have the same fields in some order, apart from their children, and no name that
is targeted occurs twice, the reports on their fields are the same in some order. -/
theorem reports_perm {v : Validator} {a b : List Field}
    (h : ((flattenAll a).map Field.alone).Perm ((flattenAll b).map Field.alone))
    (hone : ∀ name, (∃ f ∈ flattenAll a, v.Targets f name) →
      (flattenAll a).countP (·.name == name) ≤ 1) :
    (v.reports a).Perm (v.reports b) := by
  have hlookup : ∀ f ∈ flattenAll a, ∀ name, v.Targets f name →
      valueOf? (flattenAll a) name = valueOf? (flattenAll b) name := by
    intro f hf name hname
    rw [← valueOf?_map_alone, ← valueOf?_map_alone (flattenAll b)]
    refine valueOf?_perm h ?_
    rw [List.countP_map]
    exact hone name ⟨f, hf, hname⟩
  have hperm := h.map (v.checkField (flattenAll b))
  rwa [← reports_eq hlookup, map_checkField_alone] at hperm

/-- Two forests with the same contents of fields in pre-order get the same report, however their
fields are grouped. If the contents are the same in some other order, and no name that a directive
of the fields targets occurs twice among them, the violations are the same in some order. -/
theorem validate_arrangement (v : Validator) (a b : List Field) :
    ((flattenAll a).map Field.content = (flattenAll b).map Field.content →
      v.validate a = v.validate b) ∧
    (((flattenAll a).map Field.content).Perm ((flattenAll b).map Field.content) →
      (∀ name, (∃ f ∈ flattenAll a, v.Targets f name) →
        (flattenAll a).countP (·.name == name) ≤ 1) →
      (v.validate a).1.Perm (v.validate b).1) := by
  constructor
  · intro h
    have hreports : v.reports a = v.reports b := by
      refine reports_congr ?_
      rw [map_alone_eq, h, ← map_alone_eq]
    rw [validate_eq_reports, hreports, ← validate_eq_reports]
  · intro h hone
    have hreports : (v.reports a).Perm (v.reports b) := by
      refine reports_perm ?_ hone
      rw [map_alone_eq, map_alone_eq]
      exact h.map _
    rw [validate_eq_reports, validate_eq_reports]
    exact hreports.filterMap _

/-- Two equal fields need the value of a third one. It comes before them or after them, and they
stand side by side or one in the other: two equal violations are reported in every arrangement. -/
theorem validate_arrangement_repeated :
    let v : Validator := {}
    let x (children : List Field) : Field := ⟨"x", none, some "$mandatoryIf(k=1)", children⟩
    let k (children : List Field) : Field := ⟨"k", some "1", none, children⟩
    let grouped := [k [x [x []]]]
    let flat := [k [], x [], x []]
    let reordered := [x [x []], k []]
    (flattenAll grouped).map Field.content = (flattenAll flat).map Field.content ∧
      ((flattenAll grouped).map Field.content).Perm ((flattenAll reordered).map Field.content) ∧
      (∀ name, (∃ f ∈ flattenAll grouped, v.Targets f name) →
        (flattenAll grouped).countP (·.name == name) ≤ 1) ∧
      v.validate grouped = v.validate flat ∧
      (v.validate grouped).1.Perm (v.validate reordered).1 ∧
      (v.validate grouped).1.length = 2 := by
  intro v x k grouped flat reordered
  have hsame : (flattenAll grouped).map Field.content = (flattenAll flat).map Field.content := rfl
  have hperm : ((flattenAll grouped).map Field.content).Perm
      ((flattenAll reordered).map Field.content) := by decide
  have hone : ∀ name, (∃ f ∈ flattenAll grouped, v.Targets f name) →
      (flattenAll grouped).countP (·.name == name) ≤ 1 := by
    have hcondition : ∀ f ∈ flattenAll grouped, v.conditionOf? f = none ∨
        v.conditionOf? f = some (.comparing "k" .eq ["1"]) := by decide +kernel
    rintro name ⟨f, hf, hname⟩
    rw [hname.eq (hcondition f hf)]
    decide
  exact ⟨hsame, hperm, hone, (validate_arrangement v grouped flat).1 hsame,
    (validate_arrangement v grouped reordered).2 hperm hone, by decide +kernel⟩

end Validator

end RequiredFields
