import RequiredFields.Proofs.Validator.Decision
import RequiredFields.Proofs.Validator.Keyword

/-!
# What a written directive means

From the text of a description to the report: a field whose description carries a written
comparison, anywhere in it, is reported as needed because of that comparison exactly when the first
field with the name of its target satisfies it (`violationAt?_written`). The reading of the
description is `find?_append_writeCondition`, the decision `holds_comparing`.
-/

namespace RequiredFields.Validator

open Text

/-- A field whose description carries a written comparison has that comparison as its condition. -/
theorem conditionOf?_written {v : Validator} (hk : '$' ∉ v.directive.keyword.toList)
    {target : String} {values : List String} (op : Operator)
    (hw : Directive.Writable target values) {p q : String} (hp : v.directive.isIn p = false)
    {f : Field} (hd : f.description =
      some (p ++ v.directive.writeCondition (.comparing target op values) ++ q)) :
    v.conditionOf? f = some (.comparing target op values) := by
  unfold conditionOf?
  rw [hd, Option.bind_some, Directive.condition?,
    Directive.find?_append_writeCondition hk hp op hw q, Option.map_some]

/-- An empty field with a comparison as its condition is reported, as needed because of that
comparison, if the comparison holds, and is not reported otherwise. -/
theorem violationAt?_comparing {v : Validator} {forest : List Field} {path : Path} {f : Field}
    {target : String} {op : Operator} {values : List String}
    (hf : fieldAt? forest path = some f) (hempty : f.isEmpty = true)
    (hc : v.conditionOf? f = some (.comparing target op values)) :
    v.violationAt? forest path =
      if (v.holds (.comparing target op values) (flattenAll forest)).1 then
        some (.mandatoryIf f.name target op (String.intercalate ", " values))
      else none := by
  rw [violationAt?, hf, Option.bind_some, checkField_eq, isRequired_eq, hc, hempty, Bool.and_true]
  rfl

/-- Let `v` be the validator that settings with a trimmed keyword without `$` give. Let an empty
field anywhere in a forest have a description that carries the written form of a comparison, behind
any text `p` that does not carry the directive and in front of any text `q`. The report goes through
all occurrences, this one among them and each once; it has one violation for this field, because of
that comparison, if the first field with the name of its target exists and has a value that
satisfies it, and none for this field otherwise. -/
theorem violationAt?_written (s : Settings) (v : Validator) (hv : ofSettings s = .ok v)
    (hk : '$' ∉ s.directive.toList) (htrim : trim s.directive.toList = s.directive.toList)
    (target : String) (op : Operator) (values : List String)
    (hw : Directive.Writable target values) (p q : String) (hp : v.directive.isIn p = false)
    (forest : List Field) (path : Path) (f : Field) (hf : fieldAt? forest path = some f)
    (hd : f.description = some
      (p ++ (⟨s.directive⟩ : Directive).writeCondition (.comparing target op values) ++ q))
    (hempty : f.isEmpty = true) :
    ((v.validate forest).1 = (occurrences forest).filterMap fun o => v.violationAt? forest o.1) ∧
    (path, f) ∈ occurrences forest ∧ ((occurrences forest).map (·.1)).Nodup ∧
    ((∃ g, findField? (flattenAll forest) target = some g ∧
        (Condition.comparing target op values).holds ⟨s.numericComparison⟩ g.value = true) →
      v.violationAt? forest path =
        some (.mandatoryIf f.name target op (String.intercalate ", " values))) ∧
    ((¬ ∃ g, findField? (flattenAll forest) target = some g ∧
        (Condition.comparing target op values).holds ⟨s.numericComparison⟩ g.value = true) →
      v.violationAt? forest path = none) := by
  refine ⟨validate_eq_filterMap_violationAt? v forest, mem_occurrences.2 hf,
    nodup_occurrences forest, ?_⟩
  have hkeyword : s.keyword = s.directive := by
    rw [Settings.keyword, htrim, String.ofList_toList]
  obtain rfl := eq_of_ofSettings hv
  rw [hkeyword] at hp ⊢
  have hc := conditionOf?_written hk op hw hp hd
  rw [violationAt?_comparing hf hempty hc]
  constructor
  · intro hg
    rw [if_pos ((holds_comparing _ _ _ _ _).2 hg)]
  · intro hg
    rw [if_neg fun hholds => hg ((holds_comparing _ _ _ _ _).1 hholds)]

/-- A keyword of its own, a longer word with the same start before the directive, a value that ends
in a backslash and one with a comma, in a field below the target, which a second field of the same
name follows. -/
theorem violationAt?_written_nested :
    let s : Settings := ⟨"needs", true⟩
    let v : Validator := ⟨⟨"needs"⟩, ⟨true⟩⟩
    let written := (⟨s.directive⟩ : Directive).writeCondition
      (.comparing "Kind (a!)" .ne ["x\\", "1,2"])
    let f : Field := ⟨"b", some "", some ("$needsAny(x=1 \\" ++ written ++ " $needs)"), []⟩
    let forest : List Field := [⟨"a", none, none, [⟨"Kind (a!)", some "1", none, [f]⟩]⟩,
      ⟨"Kind (a!)", some "x\\", none, []⟩]
    ofSettings s = .ok v ∧ '$' ∉ s.directive.toList ∧
      trim s.directive.toList = s.directive.toList ∧
      Directive.Writable "Kind (a!)" ["x\\", "1,2"] ∧
      v.directive.isIn "$needsAny(x=1 \\" = false ∧ fieldAt? forest [0, 0, 0] = some f ∧
      f.isEmpty = true ∧
      v.violationAt? forest [0, 0, 0] =
        some (.mandatoryIf "b" "Kind (a!)" .ne "x\\, 1,2") := by
  intro s v written f forest
  have hv : ofSettings s = .ok v := by cbv
  have hk : '$' ∉ s.directive.toList := by decide
  have htrim : trim s.directive.toList = s.directive.toList := by decide
  have hw : Directive.Writable "Kind (a!)" ["x\\", "1,2"] := by decide
  have hp : v.directive.isIn "$needsAny(x=1 \\" = false := by decide +kernel
  have hf : fieldAt? forest [0, 0, 0] = some f := rfl
  have hempty : f.isEmpty = true := by decide
  have hholds : (Condition.comparing "Kind (a!)" .ne ["x\\", "1,2"]).holds
      ⟨s.numericComparison⟩ (some "1") = true := by decide
  refine ⟨hv, hk, htrim, hw, hp, hf, hempty, ?_⟩
  exact (violationAt?_written s v hv hk htrim _ .ne _ hw _ " $needs)" hp forest _ f hf rfl
    hempty).2.2.2.1 ⟨⟨"Kind (a!)", some "1", none, [f]⟩, rfl, hholds⟩

end RequiredFields.Validator
