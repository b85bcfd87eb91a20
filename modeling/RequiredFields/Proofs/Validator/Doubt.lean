import RequiredFields.Proofs.Directive.Vague
import RequiredFields.Proofs.Validator.Dependence

/-!
# Doubtful directives and missing targets

A directive that is not understood makes its field needed, whatever the record holds
(`isRequired_of_vague`). One that is understood and whose target no field has makes its field not
needed (`isRequired_of_missing`). `isRequired_doubt` puts the two side by side. They exclude each
other because a condition that was read from a description has both a target and an operator, or
neither (`isUnconditional_iff`).
-/

namespace RequiredFields.Validator

open Directive (afterMarker? Vague)

/-- The finding of a field is read behind the marker in its description. -/
theorem findingOf?_of_afterMarker? {v : Validator} {f : Field} {description : String}
    {rest : List Char} (hd : f.description = some description)
    (hrest : afterMarker? v.directive.keyword.toList description.toList = some rest) :
    v.findingOf? f = some (Directive.readGroup description rest) := by
  unfold findingOf? Directive.find?
  rw [hd, Option.bind_some, hrest, Option.map_some]

/-- Of the conditions that are read from descriptions only the one that holds always lacks a target
or an operator. -/
theorem isUnconditional_iff {v : Validator} {f : Field} {c : Condition}
    (h : v.conditionOf? f = some c) : c.isUnconditional = true ↔ c = .always := by
  obtain rfl | ⟨target, op, values, rfl⟩ := conditionOf?_cases h
  · exact iff_of_true rfl rfl
  · exact iff_of_false Bool.false_ne_true (by simp [Condition.comparing, Condition.always])

/-- A field with a vague directive has to be filled in, whatever else the forest holds. The only
notice is the warning about the directive. -/
theorem isRequired_of_vague {v : Validator} {f : Field} {description : String} {rest : List Char}
    {warning : Option Directive.Warning} (hd : f.description = some description)
    (hrest : afterMarker? v.directive.keyword.toList description.toList = some rest)
    (h : Vague description rest warning) (forest : List Field) :
    v.isRequired f forest = (true, (warning.map Notice.doubt).toList) := by
  have hholds : v.holds .always (flattenAll forest) = (true, []) := rfl
  unfold isRequired
  rw [findingOf?_of_afterMarker? hd hrest, Directive.readGroup_eq_always_iff.2 h]
  simp only [hholds, List.append_nil]

/-- A field whose target no field of the forest has does not have to be filled in. -/
theorem isRequired_of_missing {v : Validator} {f : Field} {target : String} {op : Operator}
    {values : List String} (hc : v.conditionOf? f = some (.comparing target op values))
    {forest : List Field} (hmissing : ∀ g ∈ flattenAll forest, g.name ≠ target) :
    (v.isRequired f forest).1 = false := by
  have hnone : valueOf? (flattenAll forest) target = none := valueOf?_eq_none_iff.2 hmissing
  rw [isRequired_eq, hc, Option.map_some, Option.getD_some, holds_eq]
  simp only [Condition.comparing, hnone]

/-- A field that carries the directive but no comparison has a vague text behind the marker. -/
theorem unconditional_iff_vague {v : Validator} {f : Field} {description : String}
    {rest : List Char} (hd : f.description = some description)
    (hrest : afterMarker? v.directive.keyword.toList description.toList = some rest) :
    (∀ c, v.conditionOf? f = some c → c.isUnconditional = true) ↔
      ∃ warning, Vague description rest warning := by
  have hc : v.conditionOf? f = some (Directive.readGroup description rest).condition := by
    rw [conditionOf?_eq, findingOf?_of_afterMarker? hd hrest, Option.map_some]
  constructor
  · intro h
    have halways := (isUnconditional_iff hc).1 (h _ hc)
    refine ⟨(Directive.readGroup description rest).warning, Directive.readGroup_eq_always_iff.1 ?_⟩
    rw [← halways]
  · rintro ⟨warning, h⟩ c hc'
    rw [Directive.readGroup_eq_always_iff.2 h] at hc
    rw [hc] at hc'
    exact (isUnconditional_iff (hc.trans hc')).2 (Option.some.inj hc').symm

/-- In doubt a field has to be filled in, and without its target it does not. The directive of a
field is in doubt, that is it has no target or no operator, exactly if the text behind its marker is
vague. Such a field has to be filled in whatever the forest holds, and each of its occurrences there
that is empty is reported as always needed. A field whose directive has a target and an operator
does not have to be filled in among fields none of which has the name of that target, whatever the
operator and the values are. -/
theorem isRequired_doubt (v : Validator) (f : Field) (forest : List Field) :
    (∀ description rest, f.description = some description →
      afterMarker? v.directive.keyword.toList description.toList = some rest →
      ((∀ c, v.conditionOf? f = some c → c.isUnconditional = true) ↔
        ∃ warning, Vague description rest warning)) ∧
    (∀ description, f.description = some description → v.directive.isIn description = true →
      (∀ c, v.conditionOf? f = some c → c.isUnconditional = true) →
      (v.isRequired f forest).1 = true ∧
      ∀ path, fieldAt? forest path = some f → f.isEmpty = true →
        v.violationAt? forest path = some (.mandatory f.name) ∧
        .mandatory f.name ∈ (v.validate forest).1) ∧
    (∀ c, v.conditionOf? f = some c → c.isUnconditional = false →
      (∀ g ∈ flattenAll forest, c.target ≠ some g.name) → (v.isRequired f forest).1 = false) := by
  refine ⟨fun description rest hd hrest => unconditional_iff_vague hd hrest, ?_, ?_⟩
  · intro description hd hin hc
    obtain ⟨rest, hrest⟩ := Option.isSome_iff_exists.1 hin
    obtain ⟨warning, hvague⟩ := (unconditional_iff_vague hd hrest).1 hc
    have hrequired : (v.isRequired f forest).1 = true := by
      rw [isRequired_of_vague hd hrest hvague]
    have hcondition : v.conditionOf? f = some .always := by
      rw [conditionOf?_eq, findingOf?_of_afterMarker? hd hrest,
        Directive.readGroup_eq_always_iff.2 hvague, Option.map_some]
    refine ⟨hrequired, fun path hf hempty => ?_⟩
    have hreport : v.violationAt? forest path = some (.mandatory f.name) := by
      rw [violationAt?, hf, Option.bind_some, checkField_eq, hrequired, hempty, hcondition]
      rfl
    refine ⟨hreport, ?_⟩
    rw [validate_eq_filterMap_violationAt?]
    exact List.mem_filterMap.2 ⟨(path, f), mem_occurrences.2 hf, hreport⟩
  · intro c hc hcomplete hmissing
    obtain rfl | ⟨target, op, values, rfl⟩ := conditionOf?_cases hc
    · contradiction
    · exact isRequired_of_missing hc fun g hg hname => hmissing g hg (by rw [hname]; rfl)

/-- A group that only a blank separates from its marker and that closes behind an escaped
parenthesis, with an operator but no target in it, in a field that has the name of another one; and
a comparison with an empty list, asked among no fields at all. -/
theorem isRequired_doubt_empty :
    let v : Validator := {}
    let f : Field := ⟨"a", some "", some "$mandatoryIfs $mandatoryIf\t( >= 1\\))", []⟩
    let forest : List Field := [⟨"a", some "1", none, [f]⟩]
    let g : Field := ⟨"b", none, some "$mandatoryIf(a=)", []⟩
    v.directive.isIn "$mandatoryIfs $mandatoryIf\t( >= 1\\))" = true ∧
      (∀ c, v.conditionOf? f = some c → c.isUnconditional = true) ∧
      fieldAt? forest [0, 0] = some f ∧ f.isEmpty = true ∧
      v.violationAt? forest [0, 0] = some (.mandatory "a") ∧
      v.conditionOf? g = some (.comparing "a" .eq []) ∧
      (∀ h ∈ flattenAll [], (Condition.comparing "a" .eq []).target ≠ some h.name) ∧
      (v.isRequired g []).1 = false := by
  intro v f forest g
  have hin : v.directive.isIn "$mandatoryIfs $mandatoryIf\t( >= 1\\))" = true := by decide +kernel
  have hcondition : v.conditionOf? f = some .always := by decide +kernel
  have hc : ∀ c, v.conditionOf? f = some c → c.isUnconditional = true := by
    intro c h
    exact (isUnconditional_iff h).2 (Option.some.inj (h.symm.trans hcondition))
  have hf : fieldAt? forest [0, 0] = some f := rfl
  have hempty : f.isEmpty = true := by decide
  have hg : v.conditionOf? g = some (.comparing "a" .eq []) := by decide +kernel
  have hmissing : ∀ h ∈ flattenAll [], (Condition.comparing "a" .eq []).target ≠ some h.name := by
    intro h hh
    exact absurd hh (by simp [flattenAll])
  exact ⟨hin, hc, hf, hempty, (((isRequired_doubt v f forest).2.1 _ rfl hin hc).2 _ hf hempty).1,
    hg, hmissing, (isRequired_doubt v g []).2.2 _ hg rfl hmissing⟩

end RequiredFields.Validator
