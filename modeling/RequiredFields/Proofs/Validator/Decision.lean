import RequiredFields.Proofs.Directive.RoundTrip
import RequiredFields.Proofs.Record.Occurrences
import RequiredFields.Validator

/-!
# One decision for a field and for a record

Whether a field has to be filled in is asked for one field (`isRequired`) and, field by field, for a
whole record (`validate`). The two agree: the report on a record is what the walk over its
occurrences finds where a field has to be filled in and is empty (`validate_eq_decisions`). Both
rest on `holds`, which a comparison satisfies by the value of the first field with the name of its
target (`holds_comparing`).
-/

namespace RequiredFields.Validator

/-- When a field has to be filled in, if it carries the directive. -/
def conditionOf? (v : Validator) (f : Field) : Option Condition :=
  f.description.bind v.directive.condition?

/-- The condition of a field is that of its finding. -/
theorem conditionOf?_eq (v : Validator) (f : Field) :
    v.conditionOf? f = (v.findingOf? f).map (·.condition) := by
  unfold conditionOf? findingOf?
  cases f.description <;> rfl

/-- The condition of a field holds always or is a comparison. -/
theorem conditionOf?_cases {v : Validator} {f : Field} {c : Condition}
    (h : v.conditionOf? f = some c) :
    c = .always ∨ ∃ target op values, c = .comparing target op values := by
  obtain ⟨description, -, hc⟩ := Option.bind_eq_some_iff.1 h
  exact (Directive.condition?_writable hc).imp_right fun ⟨target, op, values, hc, _⟩ =>
    ⟨target, op, values, hc⟩

/-- A comparison holds if the first field with the name of its target has a value that satisfies
it. -/
theorem holds_comparing (v : Validator) (target : String) (op : Operator) (values : List String)
    (fields : List Field) :
    (v.holds (.comparing target op values) fields).1 = true ↔
      ∃ g, findField? fields target = some g ∧
        (Condition.comparing target op values).holds v.comparison g.value = true := by
  simp only [holds, Condition.comparing]
  cases findField? fields target with
  | none => simp
  | some g => simp

/-- A field has to be filled in if its condition holds among the fields of the forest. -/
theorem isRequired_eq (v : Validator) (f : Field) (forest : List Field) :
    (v.isRequired f forest).1 =
      ((v.conditionOf? f).map fun c => (v.holds c (flattenAll forest)).1).getD false := by
  rw [conditionOf?_eq]
  unfold isRequired
  cases v.findingOf? f <;> rfl

/-- A field is reported if it has to be filled in and is empty. -/
theorem checkField_eq (v : Validator) (f : Field) (forest : List Field) :
    (v.checkField (flattenAll forest) f).1 =
      if (v.isRequired f forest).1 && f.isEmpty then
        (v.conditionOf? f).map (Violation.ofCondition f.name)
      else none := by
  rw [isRequired_eq, conditionOf?_eq]
  unfold checkField
  cases v.findingOf? f with
  | none => rfl
  | some finding =>
    simp only [Option.map_some, Option.getD_some]
    split <;> rfl

/-- The report on a record is what the check of each field reports. -/
theorem validate_eq_filterMap (v : Validator) (forest : List Field) :
    (v.validate forest).1 =
      (flattenAll forest).filterMap fun f => (v.checkField (flattenAll forest) f).1 :=
  List.filterMap_map ..

/-- What is reported for the field at a path. -/
def violationAt? (v : Validator) (forest : List Field) (path : Path) : Option Violation :=
  (fieldAt? forest path).bind fun f => (v.checkField (flattenAll forest) f).1

/-- The report on a record is what is reported for its occurrences, one after the other. -/
theorem validate_eq_filterMap_violationAt? (v : Validator) (forest : List Field) :
    (v.validate forest).1 = (occurrences forest).filterMap fun o => v.violationAt? forest o.1 := by
  rw [validate_eq_filterMap]
  conv_lhs => rw [← map_snd_occurrences, List.filterMap_map]
  refine List.filterMap_congr fun o ho => ?_
  rw [violationAt?, mem_occurrences.1 ho, Option.bind_some, Function.comp_apply,
    map_snd_occurrences]

/-- A reported field is an empty field whose condition holds, and the report names that
condition. -/
theorem mem_validate {v : Validator} {forest : List Field} {x : Violation}
    (h : x ∈ (v.validate forest).1) :
    ∃ f ∈ flattenAll forest, ∃ c, v.conditionOf? f = some c ∧
      (v.holds c (flattenAll forest)).1 = true ∧ f.isEmpty = true ∧
      x = Violation.ofCondition f.name c := by
  rw [validate_eq_filterMap] at h
  obtain ⟨f, hf, hx⟩ := List.mem_filterMap.1 h
  rw [checkField_eq, isRequired_eq] at hx
  cases hc : v.conditionOf? f with
  | none => simp [hc] at hx
  | some c =>
    simp only [hc, Option.map_some, Option.getD_some, Option.ite_none_right_eq_some,
      Bool.and_eq_true, Option.some.injEq] at hx
    obtain ⟨⟨hholds, hempty⟩, rfl⟩ := hx
    exact ⟨f, hf, c, hc, hholds, hempty, rfl⟩

/-- The report on a record and the decision for one field agree. The report is found by walking the
occurrences, in strictly rising order of their paths and thus each of them once, and reporting the
condition of every field that has to be filled in and is empty. A comparison is reported only if a
field with exactly the name of its target exists and the first such field satisfies it, and a field
is reported as always needed only if its directive asks for it always. -/
theorem validate_eq_decisions (v : Validator) (forest : List Field) :
    ((v.validate forest).1 = (occurrences forest).filterMap fun o =>
      if (v.isRequired o.2 forest).1 && o.2.isEmpty then
        (v.conditionOf? o.2).map (Violation.ofCondition o.2.name)
      else none) ∧
    ((occurrences forest).Pairwise fun a b => a.1 < b.1) ∧
    (∀ path f, (path, f) ∈ occurrences forest ↔ fieldAt? forest path = some f) ∧
    (∀ field target op joined, .mandatoryIf field target op joined ∈ (v.validate forest).1 →
      ∃ f ∈ flattenAll forest, f.name = field ∧ ∃ values,
        v.conditionOf? f = some (.comparing target op values) ∧
        joined = String.intercalate ", " values ∧
        ∃ g, findField? (flattenAll forest) target = some g ∧
          (Condition.comparing target op values).holds v.comparison g.value = true) ∧
    (∀ field, .mandatory field ∈ (v.validate forest).1 →
      ∃ f ∈ flattenAll forest, f.name = field ∧ v.conditionOf? f = some .always) := by
  refine ⟨?_, occurrences_sorted forest, fun _ _ => mem_occurrences, ?_, ?_⟩
  · rw [validate_eq_filterMap_violationAt?]
    refine List.filterMap_congr fun o ho => ?_
    rw [violationAt?, mem_occurrences.1 ho, Option.bind_some, checkField_eq]
  · intro field target op joined h
    obtain ⟨f, hf, c, hc, hholds, -, hx⟩ := mem_validate h
    obtain rfl | ⟨target', op', values, rfl⟩ := conditionOf?_cases hc
    · contradiction
    · obtain ⟨rfl, rfl, rfl, rfl⟩ := Violation.mandatoryIf.inj hx
      exact ⟨f, hf, rfl, values, hc, rfl, (holds_comparing v _ _ _ _).1 hholds⟩
  · intro field h
    obtain ⟨f, hf, c, hc, -, -, hx⟩ := mem_validate h
    obtain rfl | ⟨target, op, values, rfl⟩ := conditionOf?_cases hc
    · exact ⟨f, hf, (Violation.mandatory.inj hx).symm, hc⟩
    · contradiction

-- Both empty fields of the name `a` are reported, and the first of them is the target of `b`.
example :
    (({} : Validator).validate
      [⟨"a", none, some "$mandatoryIf", [⟨"b", some "", some "$mandatoryIf(a=)", []⟩]⟩,
        ⟨"a", some "1", none, [⟨"a", none, some "$mandatoryIf()", []⟩]⟩]).1 =
      [.mandatory "a", .mandatoryIf "b" "a" .eq "", .mandatory "a"] := by
  decide +kernel

end RequiredFields.Validator
