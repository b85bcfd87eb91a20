import RequiredFields.Proofs.Validator.Doubt

/-!
# The log of a validation

The log says of each field, in the order of the fields, how it was decided. `Trace` lists the ways
in which a field is decided, each with what is logged then: nothing for a field without the
directive, a warning if there is something wrong with its group, one line for a target that is
missing, and one line for a field that has to be filled in and is empty. They exclude each other and
leave no field out (`noticesOn_eq_iff`). A warning depends on the description alone
(`filterMap_warning?_noticesOn`), so it does not matter whether the field is filled in, and the last
kind of lines is the report (`filterMap_violation?_noticesOn`).
-/

namespace RequiredFields

open Directive (afterMarker? IsAnnounced Vague)

namespace Notice

/-- The warning that a notice gives. -/
def warning? : Notice → Option Directive.Warning
  | doubt warning => some warning
  | _ => none

/-- The violation that a notice is about. -/
def violation? : Notice → Option Violation
  | requiredEmpty field condition => some (.ofCondition field condition)
  | _ => none

end Notice

namespace Validator

/-- What is logged about one field of a forest. -/
def noticesOn (v : Validator) (forest : List Field) (f : Field) : List Notice :=
  (v.checkField (flattenAll forest) f).2

/-- The line about a field that has to be filled in and is empty, because of the condition `c`. -/
def verdictOn (v : Validator) (forest : List Field) (f : Field) (c : Condition) : List Notice :=
  if (v.isRequired f forest).1 && f.isEmpty then [.requiredEmpty f.name c] else []

/-- How a field of a forest is decided, with what the log says about it. -/
inductive Trace (v : Validator) (forest : List Field) (f : Field) : List Notice → Prop where
  /-- The field does not carry the directive. -/
  | silent (h : ∀ description, f.description = some description →
      v.directive.isIn description = false) : Trace v forest f []
  /-- The directive asks for the field always. Before the verdict comes the warning, if there is
  one. -/
  | vague {description : String} {rest : List Char} {warning : Option Directive.Warning}
    (hd : f.description = some description)
    (hrest : afterMarker? v.directive.keyword.toList description.toList = some rest)
    (h : Vague description rest warning) :
    Trace v forest f ((warning.map Notice.doubt).toList ++ v.verdictOn forest f .always)
  /-- The directive compares the value of a target that no field is. -/
  | missing {target : String} {op : Operator} {values : List String}
    (hc : v.conditionOf? f = some (.comparing target op values))
    (h : ∀ g ∈ flattenAll forest, g.name ≠ target) : Trace v forest f [.targetMissing target]
  /-- The directive compares the value of a target that is there. -/
  | decided {target : String} {op : Operator} {values : List String}
    (hc : v.conditionOf? f = some (.comparing target op values))
    (h : ∃ g ∈ flattenAll forest, g.name = target) :
    Trace v forest f (v.verdictOn forest f (.comparing target op values))

variable {v : Validator} {forest : List Field} {f : Field}

/-! ## One field -/

/-- Nothing is logged about a field without the directive. -/
theorem noticesOn_of_none (h : v.findingOf? f = none) : v.noticesOn forest f = [] := by
  simp only [noticesOn, checkField, h]

/-- Of a field with the directive are logged, in this order, the warning, a missing target and the
verdict. -/
theorem noticesOn_of_some {finding : Directive.Finding} (h : v.findingOf? f = some finding) :
    v.noticesOn forest f = (finding.warning.map Notice.doubt).toList ++
      (v.holds finding.condition (flattenAll forest)).2 ++
        v.verdictOn forest f finding.condition := by
  have hrequired :
      (v.isRequired f forest).1 = (v.holds finding.condition (flattenAll forest)).1 := by
    rw [isRequired_eq, conditionOf?_eq, h, Option.map_some, Option.map_some, Option.getD_some]
  simp only [noticesOn, checkField, h, verdictOn, hrequired]
  split
  · rfl
  · rw [List.append_nil]

/-- What a field with the directive has behind the marker. -/
theorem exists_of_findingOf? {finding : Directive.Finding} (h : v.findingOf? f = some finding) :
    ∃ description rest, f.description = some description ∧
      afterMarker? v.directive.keyword.toList description.toList = some rest ∧
      finding = Directive.readGroup description rest := by
  obtain ⟨description, hd, hfind⟩ := Option.bind_eq_some_iff.1 h
  obtain ⟨rest, hrest, hread⟩ := Option.map_eq_some_iff.1 hfind
  exact ⟨description, rest, hd, hrest, hread.symm⟩

/-- A field without the directive has no finding. -/
theorem findingOf?_eq_none_iff :
    v.findingOf? f = none ↔
      ∀ description, f.description = some description → v.directive.isIn description = false := by
  simp only [findingOf?, Option.bind_eq_none_iff, Directive.find?, Option.map_eq_none_iff,
    Directive.isIn, Option.isSome_eq_false_iff, Option.isNone_iff_eq_none]

/-- There is no warning about a comparison. -/
theorem findingOf?_of_comparing {target : String} {op : Operator} {values : List String}
    (hc : v.conditionOf? f = some (.comparing target op values)) :
    v.findingOf? f = some ⟨.comparing target op values, none⟩ := by
  rw [conditionOf?_eq] at hc
  obtain ⟨finding, hfinding, hcondition⟩ := Option.map_eq_some_iff.1 hc
  obtain ⟨description, rest, -, -, rfl⟩ := exists_of_findingOf? hfinding
  obtain halways | ⟨target', op', values', hread⟩ := Directive.readGroup_cases description rest
  · rw [halways] at hcondition
    simp [Condition.always, Condition.comparing] at hcondition
  · rw [hread] at hcondition hfinding
    rw [hfinding, ← hcondition]

/-- Each way to decide a field tells all that is logged about it. -/
theorem noticesOn_of_trace {notices : List Notice} (h : v.Trace forest f notices) :
    v.noticesOn forest f = notices := by
  cases h with
  | silent h => exact noticesOn_of_none (findingOf?_eq_none_iff.2 h)
  | vague hd hrest h =>
    have hfinding := findingOf?_of_afterMarker? hd hrest
    rw [Directive.readGroup_eq_always_iff.2 h] at hfinding
    have hholds : v.holds .always (flattenAll forest) = (true, []) := rfl
    rw [noticesOn_of_some hfinding, hholds, List.append_nil]
  | @missing target op values hc h =>
    have hverdict : v.verdictOn forest f (.comparing target op values) = [] := by
      rw [verdictOn, isRequired_of_missing hc h]
      rfl
    have hholds : v.holds (.comparing target op values) (flattenAll forest) =
        (false, [.targetMissing target]) := by
      rw [holds_eq]
      simp only [Condition.comparing, valueOf?_eq_none_iff.2 h]
    rw [noticesOn_of_some (findingOf?_of_comparing hc), hverdict, hholds]
    rfl
  | @decided target op values hc h =>
    obtain ⟨g, hg, hname⟩ := h
    obtain ⟨value, hvalue⟩ : ∃ value, valueOf? (flattenAll forest) target = some value :=
      Option.ne_none_iff_exists'.1 fun hnone => valueOf?_eq_none_iff.1 hnone g hg hname
    have hholds : (v.holds (.comparing target op values) (flattenAll forest)).2 = [] := by
      rw [holds_eq]
      simp only [Condition.comparing, hvalue]
    rw [noticesOn_of_some (findingOf?_of_comparing hc), hholds]
    rfl

/-- Every field is decided in one of the ways. -/
theorem exists_trace (v : Validator) (forest : List Field) (f : Field) :
    ∃ notices, v.Trace forest f notices := by
  cases hfinding : v.findingOf? f with
  | none => exact ⟨_, .silent (findingOf?_eq_none_iff.1 hfinding)⟩
  | some finding =>
    have hc : v.conditionOf? f = some finding.condition := by
      rw [conditionOf?_eq, hfinding, Option.map_some]
    obtain halways | ⟨target, op, values, hcomparing⟩ := conditionOf?_cases hc
    · obtain ⟨description, rest, hd, hrest, rfl⟩ := exists_of_findingOf? hfinding
      have hread : Directive.readGroup description rest =
          ⟨.always, (Directive.readGroup description rest).warning⟩ := by
        rw [← halways]
      exact ⟨_, .vague hd hrest (Directive.readGroup_eq_always_iff.1 hread)⟩
    · rw [hcomparing] at hc
      by_cases htarget : ∃ g ∈ flattenAll forest, g.name = target
      · exact ⟨_, .decided hc htarget⟩
      · exact ⟨_, .missing hc fun g hg hname => htarget ⟨g, hg, hname⟩⟩

/-- What is logged about a field is what the way says in which it is decided, and there is just one
such way of logging. -/
theorem noticesOn_eq_iff {notices : List Notice} :
    v.noticesOn forest f = notices ↔ v.Trace forest f notices := by
  constructor
  · rintro rfl
    obtain ⟨notices, h⟩ := exists_trace v forest f
    rwa [noticesOn_of_trace h]
  · exact noticesOn_of_trace

/-! ## The two kinds of lines -/

/-- A verdict is no warning. -/
theorem filterMap_warning?_verdictOn (c : Condition) :
    (v.verdictOn forest f c).filterMap Notice.warning? = [] := by
  unfold verdictOn
  split <;> rfl

/-- A missing target is no warning, and no violation. -/
theorem filterMap_holds (v : Validator) (c : Condition) (fields : List Field) :
    (v.holds c fields).2.filterMap Notice.warning? = [] ∧
      (v.holds c fields).2.filterMap Notice.violation? = [] := by
  unfold holds
  split
  · exact ⟨rfl, rfl⟩
  · split <;> exact ⟨rfl, rfl⟩

/-- The warnings about a field are the one that its description gives, if it gives one. -/
theorem filterMap_warning?_noticesOn (v : Validator) (forest : List Field) (f : Field) :
    (v.noticesOn forest f).filterMap Notice.warning? =
      ((v.findingOf? f).bind (·.warning)).toList := by
  cases hfinding : v.findingOf? f with
  | none => rw [noticesOn_of_none hfinding]; rfl
  | some finding =>
    rw [noticesOn_of_some hfinding, List.filterMap_append, List.filterMap_append,
      (filterMap_holds v _ _).1, filterMap_warning?_verdictOn, List.append_nil, List.append_nil]
    cases hwarning : finding.warning <;> simp [hwarning, Notice.warning?]

/-- The violations that are logged about a field are the one that is reported, if one is. -/
theorem filterMap_violation?_noticesOn (v : Validator) (forest : List Field) (f : Field) :
    (v.noticesOn forest f).filterMap Notice.violation? =
      (v.checkField (flattenAll forest) f).1.toList := by
  cases hfinding : v.findingOf? f with
  | none => simp only [noticesOn, checkField, hfinding, List.filterMap_nil, Option.toList_none]
  | some finding =>
    have hwarning : (finding.warning.map Notice.doubt).toList.filterMap Notice.violation? = [] := by
      cases finding.warning <;> rfl
    rw [noticesOn_of_some hfinding, List.filterMap_append, List.filterMap_append, hwarning,
      (filterMap_holds v _ _).2, List.nil_append, List.nil_append, checkField_eq, conditionOf?_eq,
      hfinding, verdictOn]
    split <;> rfl

/-! ## The whole log -/

/-- The log is what is logged about the fields, one after the other. -/
theorem validate_eq_flatMap (v : Validator) (forest : List Field) :
    (v.validate forest).2 = (flattenAll forest).flatMap (v.noticesOn forest) :=
  List.flatMap_map ..

/-- The violations in the log are the report, in its order. -/
theorem filterMap_violation?_validate (v : Validator) (forest : List Field) :
    (v.validate forest).2.filterMap Notice.violation? = (v.validate forest).1 := by
  rw [validate_eq_flatMap, List.filterMap_flatMap, validate_eq_filterMap,
    List.filterMap_eq_flatMap_toList]
  exact List.flatMap_congr fun f _ => filterMap_violation?_noticesOn v forest f

/-- The log of a validation is an exact trace of its decisions. It is put together from what is
logged about each field, in the order of the fields, and about each field that is logged which goes
with the way in which it is decided. For a field with the directive there is one warning if what
follows the marker is a group that is never closed, or one that is not blank and lacks its operator
or its target, and else there is none; whether the field is filled in does not matter. The lines
about fields that have to be filled in and are empty are, one by one and in the same order, the
violations that are reported. -/
theorem validate_trace (v : Validator) (forest : List Field) :
    (v.validate forest).2 = (flattenAll forest).flatMap (v.noticesOn forest) ∧
    (∀ f notices, v.noticesOn forest f = notices ↔ v.Trace forest f notices) ∧
    (∀ f description rest, f.description = some description →
      afterMarker? v.directive.keyword.toList description.toList = some rest →
      (IsAnnounced rest → ∃ warning, Vague description rest (some warning) ∧
        (v.noticesOn forest f).filterMap Notice.warning? = [warning]) ∧
      (¬ IsAnnounced rest → (v.noticesOn forest f).filterMap Notice.warning? = [])) ∧
    (v.validate forest).2.filterMap Notice.violation? = (v.validate forest).1 := by
  refine ⟨validate_eq_flatMap v forest, fun _ _ => noticesOn_eq_iff, ?_,
    filterMap_violation?_validate v forest⟩
  intro f description rest hd hrest
  rw [filterMap_warning?_noticesOn, findingOf?_of_afterMarker? hd hrest, Option.bind_some,
    ← Directive.exists_vague_iff description]
  constructor
  · rintro ⟨warning, h⟩
    refine ⟨warning, h, ?_⟩
    rw [Directive.readGroup_eq_always_iff.2 h]
    rfl
  · intro h
    cases hwarning : (Directive.readGroup description rest).warning with
    | none => rfl
    | some warning =>
      -- A comparison comes without a warning, so the directive asks for the field always.
      obtain halways | ⟨target, op, values, hread⟩ := Directive.readGroup_cases description rest
      · refine absurd ⟨warning, Directive.readGroup_eq_always_iff.1 ?_⟩ h
        rw [← halways, ← hwarning]
      · rw [hread] at hwarning
        contradiction

/-- A field that is filled in with a group that is never closed, a group with a blank in it, a
target with an escaped parenthesis that no field is called, and a comparison that holds. -/
theorem validate_trace_kinds :
    let v : Validator := {}
    let unclosed : Field := ⟨"a", some "1", some "$mandatoryIf (b=", []⟩
    let blank : Field := ⟨"b", none, some "$mandatoryIf( )",
      [⟨"c", none, some "$mandatoryIf(d\\(=1)", []⟩, ⟨"e", some "", some "$mandatoryIf(a!=)", []⟩]⟩
    let forest : List Field := [unclosed, blank]
    unclosed.description = some "$mandatoryIf (b=" ∧ blank.description = some "$mandatoryIf( )" ∧
      afterMarker? v.directive.keyword.toList "$mandatoryIf (b=".toList = some " (b=".toList ∧
      afterMarker? v.directive.keyword.toList "$mandatoryIf( )".toList = some "( )".toList ∧
      IsAnnounced " (b=".toList ∧ ¬ IsAnnounced "( )".toList ∧
      (v.noticesOn forest unclosed).filterMap Notice.warning? = [.unbalanced "$mandatoryIf (b="] ∧
      (v.noticesOn forest blank).filterMap Notice.warning? = [] ∧
      (v.validate forest).2 = [.doubt (.unbalanced "$mandatoryIf (b="), .requiredEmpty "b" .always,
        .targetMissing "d(", .requiredEmpty "e" (.comparing "a" .ne [])] := by
  intro v unclosed blank forest
  have hopen : afterMarker? v.directive.keyword.toList "$mandatoryIf (b=".toList =
      some " (b=".toList := by decide +kernel
  have hblank : afterMarker? v.directive.keyword.toList "$mandatoryIf( )".toList =
      some "( )".toList := by decide +kernel
  have hannounced : IsAnnounced " (b=".toList := by
    have hgroup : Text.trimStart " (b=".toList = ['(', 'b', '='] := by decide
    refine .unclosed hgroup fun body after h => ?_
    have hmem : ')' ∈ ['b', '='] := h ▸ List.mem_append_right body List.mem_cons_self
    exact absurd hmem (by decide)
  have hsilent : ¬ IsAnnounced "( )".toList := by
    rw [← Directive.exists_vague_iff ""]
    rintro ⟨warning, h⟩
    have hread : Directive.readGroup "" "( )".toList = ⟨.always, none⟩ := by decide +kernel
    rw [← Directive.readGroup_eq_always_iff, hread] at h
    simp at h
  obtain ⟨-, -, hwarnings, -⟩ := validate_trace v forest
  obtain ⟨warning, hvague, hwarning⟩ := (hwarnings unclosed _ _ rfl hopen).1 hannounced
  have hread : Directive.readGroup "$mandatoryIf (b=" " (b=".toList =
      ⟨.always, some (.unbalanced "$mandatoryIf (b=")⟩ := by decide +kernel
  rw [← Directive.readGroup_eq_always_iff, hread] at hvague
  obtain rfl := Option.some.inj (Directive.Finding.mk.inj hvague).2
  exact ⟨rfl, rfl, hopen, hblank, hannounced, hsilent, hwarning,
    (hwarnings blank _ _ rfl hblank).2 hsilent, by decide +kernel⟩

end Validator

end RequiredFields
