import RequiredFields.Proofs.Validator.Dependence

/-!
# Edits of a value

Another value in one field changes nothing for the fields that do not depend on it
(`validate_setValue`). The look-up of a name gives another value only if the edited field is the
first one of this name (`valueOf?_setValue`), and a decision reads no value but that of its target.
-/

namespace RequiredFields.Validator

variable {v : Validator} {forest : List Field} {path : Path} {g : Field}

/-- A field has to be filled in after the edit exactly if it has to be before, unless its directive
targets the name of the edited field and this one is the first of its name. -/
theorem isRequired_setValue (hg : fieldAt? forest path = some g) (value : Option String)
    {f f' : Field} (hd : f'.description = f.description)
    (h : ¬ (IsFirst forest path g ∧ v.Targets f g.name)) :
    v.isRequired f' (setValue value forest path) = v.isRequired f forest := by
  refine (isRequired_congr hd.symm fun name hname => (valueOf?_setValue hg value ?_).symm).symm
  rintro ⟨hfirst, rfl⟩
  exact h ⟨hfirst, hname⟩

/-- The violation of a field is decided by its name and description, whether it is empty, and
whether it has to be filled in. -/
theorem violationAt?_congr {a b : List Field} {p : Path} {f f' : Field}
    (hf : fieldAt? a p = some f) (hf' : fieldAt? b p = some f') (hn : f'.name = f.name)
    (hd : f'.description = f.description) (he : f'.isEmpty = f.isEmpty)
    (hr : (v.isRequired f' b).1 = (v.isRequired f a).1) :
    v.violationAt? b p = v.violationAt? a p := by
  unfold violationAt?
  rw [hf, hf', Option.bind_some, Option.bind_some, checkField_eq, checkField_eq, hr, he, hn]
  unfold conditionOf?
  rw [hd]

/-- Another field has the same violation, if any, after the edit, unless its directive targets the
name of the edited field and this one is the first of its name. -/
theorem violationAt?_setValue (hg : fieldAt? forest path = some g) (value : Option String)
    {p : Path} {f f' : Field} (hf : fieldAt? forest p = some f)
    (hf' : fieldAt? (setValue value forest path) p = some f')
    (h : ¬ (IsFirst forest path g ∧ v.Targets f g.name)) (hp : p ≠ path) :
    v.violationAt? (setValue value forest path) p = v.violationAt? forest p := by
  obtain ⟨hn, hd, hvalue⟩ := eq_of_setValue hg value hf hf'
  have he : f'.isEmpty = f.isEmpty := by
    rw [Field.isEmpty, Field.text, hvalue hp]
    rfl
  exact violationAt?_congr hf hf' hn hd he (congrArg Prod.fst (isRequired_setValue hg value hd h))

/-- The edited field has another violation only if it becomes empty or ceases to be, or if it
depends on itself and has to be filled in at one of the two times alone. -/
theorem violationAt?_setValue_self (hg : fieldAt? forest path = some g) (value : Option String)
    {f f' : Field} (hf : fieldAt? forest path = some f)
    (hf' : fieldAt? (setValue value forest path) path = some f')
    (hchanged : v.violationAt? (setValue value forest path) path ≠ v.violationAt? forest path) :
    f'.isEmpty ≠ f.isEmpty ∨ (IsFirst forest path g ∧ v.Targets f g.name ∧
      (v.isRequired f' (setValue value forest path)).1 ≠ (v.isRequired f forest).1) := by
  obtain ⟨hn, hd, -⟩ := eq_of_setValue hg value hf hf'
  by_cases he : f'.isEmpty = f.isEmpty
  · right
    have hr : (v.isRequired f' (setValue value forest path)).1 ≠ (v.isRequired f forest).1 :=
      fun hr => hchanged (violationAt?_congr hf hf' hn hd he hr)
    -- Whether it has to be filled in would stay as it is if it did not depend on itself.
    obtain ⟨hfirst, htargets⟩ : IsFirst forest path g ∧ v.Targets f g.name := by
      by_contra h
      exact hr (congrArg Prod.fst (isRequired_setValue hg value hd h))
    exact ⟨hfirst, htargets, hr⟩
  · exact .inl he

/-- Let the field `g` at a path get another value. All fields keep their paths, and no field changes
apart from its children but `g`, which keeps its name and description. The reports before and after
go through the same paths. A field has to be filled in after the edit exactly if it has to be
before, and a field other than `g` has the same violation, if any, unless its directive targets the
name of `g` and `g` is the first field of this name. The violation of `g` itself changes only if it
becomes empty or ceases to be, or if it is the first field of its name, its directive targets this
name, and it has to be filled in at one of the two times alone. So a field with an earlier one of
the same name has no influence on the other fields. -/
theorem validate_setValue (v : Validator) (forest : List Field) (path : Path) (g : Field)
    (hg : fieldAt? forest path = some g) (value : Option String) :
    let edited := setValue value forest path
    let paths := (occurrences forest).map (·.1)
    rows edited = ((occurrences forest).map fun o =>
      (o.1, if o.1 = path then { o.2.alone with value } else o.2.alone)) ∧
    (v.validate forest).1 = paths.filterMap (v.violationAt? forest) ∧
    (v.validate edited).1 = paths.filterMap (v.violationAt? edited) ∧
    ∀ p f f', fieldAt? forest p = some f → fieldAt? edited p = some f' →
      (¬ (IsFirst forest path g ∧ v.Targets f g.name) →
        v.isRequired f' edited = v.isRequired f forest ∧
        (p ≠ path → v.violationAt? edited p = v.violationAt? forest p)) ∧
      (p = path → v.violationAt? edited p ≠ v.violationAt? forest p →
        f'.isEmpty ≠ f.isEmpty ∨
        (IsFirst forest path g ∧ v.Targets f g.name ∧
          (v.isRequired f' edited).1 ≠ (v.isRequired f forest).1)) ∧
      (¬ IsFirst forest path g → p ≠ path →
        v.isRequired f' edited = v.isRequired f forest ∧
        v.violationAt? edited p = v.violationAt? forest p) := by
  intro edited paths
  have hrows := rows_setValue hg value
  have hpaths : (occurrences edited).map (·.1) = paths := by
    rw [← map_fst_rows, hrows, List.map_map]
    rfl
  refine ⟨hrows, ?_, ?_, ?_⟩
  · rw [validate_eq_filterMap_violationAt?, List.filterMap_map]
    rfl
  · rw [validate_eq_filterMap_violationAt?, ← hpaths, List.filterMap_map]
    rfl
  · intro p f f' hf hf'
    obtain ⟨-, hd, -⟩ := eq_of_setValue hg value hf hf'
    refine ⟨fun h => ?_, ?_, fun hfirst hp => ?_⟩
    · exact ⟨isRequired_setValue hg value hd h, violationAt?_setValue hg value hf hf' h⟩
    · rintro rfl
      exact violationAt?_setValue_self hg value hf hf'
    · have h : ¬ (IsFirst forest path g ∧ v.Targets f g.name) := fun h => hfirst h.1
      exact ⟨isRequired_setValue hg value hd h, violationAt?_setValue hg value hf hf' h hp⟩

/-- Two fields of the name `a`, of which the directive of `b` reads the first: emptying the second
changes nothing for `b`. -/
theorem validate_setValue_shadowed :
    let v : Validator := {}
    let g : Field := ⟨"a", some "2", none, []⟩
    let b : Field := ⟨"b", none, some "$mandatoryIf(a=1)", []⟩
    let forest : List Field := [⟨"a", some "1", none, [g, b]⟩]
    fieldAt? forest [0, 0] = some g ∧ ¬ IsFirst forest [0, 0] g ∧
      v.isRequired b (setValue none forest [0, 0]) = v.isRequired b forest ∧
      v.violationAt? (setValue none forest [0, 0]) [0, 1] = v.violationAt? forest [0, 1] ∧
      v.violationAt? forest [0, 1] = some (.mandatoryIf "b" "a" .eq "1") := by
  intro v g b forest
  have hg : fieldAt? forest [0, 0] = some g := rfl
  have hfirst : ¬ IsFirst forest [0, 0] g := by
    have hfind : ((occurrences forest).find? (·.2.name == g.name)).map (·.1) = some [0] := by
      decide
    intro h
    rw [IsFirst] at h
    rw [h] at hfind
    exact absurd hfind (by decide)
  obtain ⟨-, -, -, hfields⟩ := validate_setValue v forest [0, 0] g hg none
  obtain ⟨hr, hviolation⟩ := (hfields [0, 1] b b rfl rfl).2.2 hfirst (by decide)
  exact ⟨hg, hfirst, hr, hviolation, by decide +kernel⟩

end RequiredFields.Validator
