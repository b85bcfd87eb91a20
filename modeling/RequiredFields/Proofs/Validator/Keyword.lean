import RequiredFields.Proofs.Directive.Standalone
import RequiredFields.Validator

/-!
# Keywords

Which keywords the check of the settings lets through (`check_eq`), and what the keyword means for
the search. A validator misses no directive, in any description, exactly if its marker cannot hide
itself (`isIn_iff_standsAloneIn`). The check lets keywords through with a `$` behind their first
character, and with some of them a directive is missed (`not_isIn_hidden`).
-/

namespace RequiredFields.Settings

open Text

/-- The keywords that the check lets through: the sign is looked for in front only. -/
def IsAccepted (keyword : List Char) : Prop :=
  keyword ≠ [] ∧ keyword.head? ≠ some '$' ∧ '(' ∉ keyword ∧ ')' ∉ keyword

instance (keyword : List Char) : Decidable (IsAccepted keyword) :=
  inferInstanceAs (Decidable (_ ∧ _ ∧ _ ∧ _))

/-- What is wrong with a keyword that is not accepted. -/
def refusal (s : Settings) : Fault :=
  if trim s.directive.toList = [] then .emptyKeyword else .reservedCharacter s.directive

/-- The check goes by the trimmed keyword. -/
theorem check_eq (s : Settings) :
    s.check = if IsAccepted (trim s.directive.toList) then .ok s else .error s.refusal := by
  unfold check fault? refusal
  cases hkeyword : trim s.directive.toList with
  | nil => rfl
  | cons c rest =>
    by_cases hfault : c = '$' ∨ '(' ∈ c :: rest ∨ ')' ∈ c :: rest
    · have hrefused : ¬ IsAccepted (c :: rest) := by
        rintro ⟨-, hhead, hopen, hclose⟩
        obtain rfl | h | h := hfault
        · exact hhead rfl
        · exact hopen h
        · exact hclose h
      simp only [if_pos hfault, if_neg hrefused, if_neg (List.cons_ne_nil c rest)]
    · simp only [not_or] at hfault
      have haccepted : IsAccepted (c :: rest) :=
        ⟨by simp, by simpa using hfault.1, hfault.2.1, hfault.2.2⟩
      simp only [if_pos haccepted, hfault, or_self, if_false]

/-- Settings pass the check as they are, if their keyword is accepted. -/
theorem check_eq_ok_iff {s s' : Settings} :
    s.check = .ok s' ↔ IsAccepted (trim s.directive.toList) ∧ s' = s := by
  rw [check_eq]
  by_cases hkeyword : IsAccepted (trim s.directive.toList)
  · rw [if_pos hkeyword, Except.ok.injEq, and_iff_right hkeyword]
    exact eq_comm
  · rw [if_neg hkeyword]
    exact iff_of_false nofun fun h => hkeyword h.1

end RequiredFields.Settings

namespace RequiredFields.Validator

open Text Directive

/-- Settings with an accepted keyword give a validator, which takes its directive and its order of
texts from them. -/
theorem ofSettings_eq_ok_iff {s : Settings} {v : Validator} :
    ofSettings s = .ok v ↔
      Settings.IsAccepted (trim s.directive.toList) ∧ v = ⟨⟨s.keyword⟩, ⟨s.numericComparison⟩⟩ := by
  rw [ofSettings, Settings.check_eq]
  by_cases hkeyword : Settings.IsAccepted (trim s.directive.toList)
  · rw [if_pos hkeyword, Except.map, Except.ok.injEq, and_iff_right hkeyword]
    exact eq_comm
  · rw [if_neg hkeyword]
    exact iff_of_false nofun fun h => hkeyword h.1

/-- A validator takes its directive and its order of texts from the settings. -/
theorem eq_of_ofSettings {s : Settings} {v : Validator} (h : ofSettings s = .ok v) :
    v = ⟨⟨s.keyword⟩, ⟨s.numericComparison⟩⟩ :=
  (ofSettings_eq_ok_iff.1 h).2

/-- Let `v` be the validator that settings give, so that its marker is `$` and the trimmed keyword.
A description has a condition exactly if the directive is found in it, and it is found only if the
marker stands alone in the description. It is found in all such descriptions exactly if no
occurrence of the marker can hide another, and a keyword without `$` has such a marker. -/
theorem isIn_iff_standsAloneIn (s : Settings) (v : Validator) (hv : ofSettings s = .ok v) :
    v.directive.marker.toList = '$' :: trim s.directive.toList ∧
    (∀ text, (v.directive.condition? text).isSome = v.directive.isIn text) ∧
    (∀ text, v.directive.isIn text = true → v.directive.StandsAloneIn text) ∧
    ((∀ text, v.directive.isIn text = true ↔ v.directive.StandsAloneIn text) ↔
      ¬ HidesItself v.directive.marker.toList) ∧
    ('$' ∉ trim s.directive.toList → ¬ HidesItself v.directive.marker.toList) := by
  have hmarker : v.directive.marker.toList = '$' :: trim s.directive.toList := by
    rw [eq_of_ofSettings hv, toList_marker, Settings.keyword, String.toList_ofList]
  refine ⟨hmarker, isSome_condition? v.directive, fun _ => standsAloneIn_of_isIn,
    forall_isIn_iff v.directive, ?_⟩
  rw [hmarker]
  exact not_hidesItself

/-- Blanks around the keyword: every marker that stands alone is found, so the one behind a longer
word that starts with it. -/
theorem isIn_iff_standsAloneIn_blanks :
    let s : Settings := ⟨" needs\t", true⟩
    let v : Validator := ⟨⟨"needs"⟩, ⟨true⟩⟩
    ofSettings s = .ok v ∧ '$' ∉ trim s.directive.toList ∧
      (∀ text, v.directive.isIn text = true ↔ v.directive.StandsAloneIn text) ∧
      v.directive.isIn "$needs_a$needs" = true := by
  intro s v
  have hv : ofSettings s = .ok v := by cbv
  have hk : '$' ∉ trim s.directive.toList := by decide
  obtain ⟨-, -, -, hfound, hhides⟩ := isIn_iff_standsAloneIn s v hv
  have hall := hfound.2 (hhides hk)
  exact ⟨hv, hk, hall, (hall _).2 ⟨"$needs_a".toList, [], by decide, rfl⟩⟩

/-- The keyword `a$` is accepted. In `$a$a$` the marker stands alone at the end, but its `$` is also
the end of the occurrence that is passed over, and the directive is not found. -/
theorem not_isIn_hidden :
    let s : Settings := ⟨"a$", true⟩
    let v : Validator := ⟨⟨"a$"⟩, ⟨true⟩⟩
    ofSettings s = .ok v ∧ v.directive.StandsAloneIn "$a$a$" ∧
      v.directive.isIn "$a$a$" = false ∧ v.directive.condition? "$a$a$" = none := by
  intro s v
  have hv : ofSettings s = .ok v := by cbv
  have halone : v.directive.StandsAloneIn "$a$a$" := ⟨"$a".toList, [], by decide, rfl⟩
  exact ⟨hv, halone, by decide +kernel, by decide +kernel⟩

end RequiredFields.Validator
