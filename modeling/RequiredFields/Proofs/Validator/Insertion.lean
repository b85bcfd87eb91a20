import RequiredFields.Proofs.Validator.Dependence

/-!
# Inserted trees

A tree that is inserted in a forest adds the violations of its own fields, at its place, and changes
no others (`validate_insertField`), as long as it does not hide a field from a directive outside: a
name in the tree that such a directive targets must be that of a field before the tree. Then every
look-up finds the same field as without the tree, or still none (`valueOf?_insertField`).
-/

namespace RequiredFields.Validator

/-- A field has the same report in the enlarged forest if each name that its directive targets is
that of no field in the tree or that of a field before it. -/
theorem checkField_insertField (v : Validator) {forest siblings : List Field} {path : Path}
    {i : Nat} {g : Field} (hpath : listAt? forest path = some siblings)
    (hi : i ≤ siblings.length) {f : Field}
    (h : ∀ name, v.Targets f name → ∀ f' ∈ g.flatten, f'.name = name →
      ∃ f'' ∈ fieldsBefore forest (path ++ [i]), f''.name = name) :
    v.checkField (flattenAll (insertField g forest path i)) f =
      v.checkField (flattenAll forest) f :=
  checkField_congr rfl rfl rfl fun name hname => valueOf?_insertField hpath hi (h name hname)

/-- Let a tree `g` be inserted at any index of any list of a forest. Suppose that each name in the
tree that the directive of a field of the forest targets is also the name of a field before the
tree. Then the report on the enlarged forest consists of the violations of the fields before the
tree, those of the fields of the tree, and those of the fields behind it; the first and the last
together are the report on the forest. Removing the tree gives this report again. -/
theorem validate_insertField (v : Validator) (forest siblings : List Field) (path : Path) (i : Nat)
    (g : Field) (hpath : listAt? forest path = some siblings) (hi : i ≤ siblings.length)
    (hnames : ∀ f ∈ g.flatten, (∃ f' ∈ flattenAll forest, v.Targets f' f.name) →
      ∃ f' ∈ fieldsBefore forest (path ++ [i]), f'.name = f.name) :
    let enlarged := insertField g forest path i
    let before := fieldsBefore forest (path ++ [i])
    let behind := fieldsFrom forest (path ++ [i])
    let violations (fields : List Field) : List Violation :=
      fields.filterMap fun f => (v.checkField (flattenAll enlarged) f).1
    flattenAll forest = before ++ behind ∧
    (flattenAll enlarged).map Field.alone = (before ++ g.flatten ++ behind).map Field.alone ∧
    (v.validate enlarged).1 = violations before ++ violations g.flatten ++ violations behind ∧
    (v.validate forest).1 = violations before ++ violations behind ∧
    v.validate (removeField enlarged (path ++ [i])) = v.validate forest := by
  intro enlarged before behind violations
  have hfields : before ++ behind = flattenAll forest := fieldsBefore_append_fieldsFrom forest _
  have henlarged := flattenAll_insertField hpath hi g
  refine ⟨hfields.symm, henlarged, ?_, ?_, ?_⟩
  · calc (v.validate enlarged).1
        = violations (flattenAll enlarged) := validate_eq_filterMap v enlarged
      _ = violations (before ++ g.flatten ++ behind) := filterMap_checkField_congr v _ henlarged
      _ = violations before ++ violations g.flatten ++ violations behind := by
        simp only [violations, List.filterMap_append]
  · have hsame : ∀ f ∈ flattenAll forest,
        (v.checkField (flattenAll forest) f).1 = (v.checkField (flattenAll enlarged) f).1 := by
      intro f hf
      refine congrArg Prod.fst (checkField_insertField v hpath hi ?_).symm
      rintro name hname f' hf' rfl
      exact hnames f' hf' ⟨f, hf, hname⟩
    calc (v.validate forest).1 = violations (flattenAll forest) := by
          rw [validate_eq_filterMap]
          exact List.filterMap_congr hsame
      _ = violations before ++ violations behind := by rw [← hfields, ← List.filterMap_append]
  · rw [removeField_insertField]

/-- The inserted tree has a field of the name `k`, which two directives outside it target. The first
field of this name stands before the tree, so they still read its value, and so does the directive
in the tree. -/
theorem validate_insertField_shadowed :
    let v : Validator := {}
    let needs (name : String) : Field := ⟨name, none, some "$mandatoryIf(k=1)", []⟩
    let forest : List Field := [⟨"k", some "1", none, [needs "x"]⟩, needs "y"]
    let g : Field := ⟨"k", some "2", none, [needs "z"]⟩
    let enlarged := insertField g forest [0] 0
    listAt? forest [0] = some [needs "x"] ∧
      (∀ f ∈ g.flatten, (∃ f' ∈ flattenAll forest, v.Targets f' f.name) →
        ∃ f' ∈ fieldsBefore forest [0, 0], f'.name = f.name) ∧
      (v.validate enlarged).1 =
        [.mandatoryIf "z" "k" .eq "1", .mandatoryIf "x" "k" .eq "1", .mandatoryIf "y" "k" .eq "1"] ∧
      (v.validate forest).1 = [.mandatoryIf "x" "k" .eq "1", .mandatoryIf "y" "k" .eq "1"] ∧
      v.validate (removeField enlarged [0, 0]) = v.validate forest := by
  intro v needs forest g enlarged
  have hpath : listAt? forest [0] = some [needs "x"] := rfl
  have hnames : ∀ f ∈ g.flatten, (∃ f' ∈ flattenAll forest, v.Targets f' f.name) →
      ∃ f' ∈ fieldsBefore forest [0, 0], f'.name = f.name := by
    have hcondition : ∀ f' ∈ flattenAll forest, v.conditionOf? f' = none ∨
        v.conditionOf? f' = some (.comparing "k" .eq ["1"]) := by decide +kernel
    rintro f - ⟨f', hf', hname⟩
    rw [hname.eq (hcondition f' hf')]
    exact ⟨⟨"k", some "1", none, [needs "x"]⟩, List.mem_singleton_self _, rfl⟩
  obtain ⟨-, -, henlarged, hforest, hremoved⟩ :=
    validate_insertField v forest [needs "x"] [0] 0 g hpath (Nat.zero_le _) hnames
  refine ⟨hpath, hnames, ?_, ?_, hremoved⟩
  · rw [henlarged]
    decide +kernel
  · rw [hforest]
    decide +kernel

end RequiredFields.Validator
