import RequiredFields.Proofs.Configuration.Override
import RequiredFields.Proofs.Number.Characters
import RequiredFields.Proofs.Validator.Keyword

/-!
# Keywords that come through a variable

The text of a variable is read as a truth value or a number where it looks like one, and printed
again where a text is wanted (`printed`). What is printed can be used as a keyword whenever the text
could (`check_printed`), since numbers are written in numerals. So a keyword that is set by its
variable alone is always loaded, and it is the keyword given exactly if that is what is printed for
it (`load_keyword`); other spellings of truth values and numbers change (`load_changes_keyword`).
-/

namespace RequiredFields.Configuration

open Text

/-- The text that the text of a variable becomes where a text is wanted: truth values and numbers
are printed again, everything else stays as it is. -/
def printed (text : String) : String :=
  (valueOfVariable text).toText?.getD text

/-- A text that is neither a truth value nor a number stays as it is. -/
theorem printed_of_isPlainText {text : String} (h : IsPlainText text) : printed text = text := by
  rw [printed, valueOfVariable_of_isPlainText h]
  rfl

/-- What a variable says is printed where a text is wanted. -/
theorem toText?_valueOfVariable (text : String) :
    (valueOfVariable text).toText? = some (printed text) := by
  unfold printed
  have hscalar := isScalar_valueOfVariable text
  cases hvalue : valueOfVariable text with
  | boolean | integer | float | text => rfl
  | nothing | list | table =>
    rw [hvalue] at hscalar
    contradiction

/-- A text of numerals. -/
def IsNumeralText (text : String) : Prop :=
  text.toList ≠ [] ∧ ∀ c ∈ text.toList, isNumeral c = true

/-- The words for truth values are numerals by their characters, in any case. -/
theorem isNumeralText_of_lowerCase {text word : String} (hword : IsNumeralText word)
    (h : lowerCase text = word) : IsNumeralText text := by
  have hmap : text.toList.map Char.toLower = word.toList := by
    rw [← h, lowerCase, String.toList_ofList]
  refine ⟨?_, isNumeral_of_map_toLower hword.2 hmap⟩
  intro hnil
  rw [hnil] at hmap
  exact hword.1 hmap.symm

/-- A text that is a truth value or a number consists of numerals, and so does what is printed for
it. -/
theorem isNumeralText_of_not_isPlainText {text : String} (h : ¬ IsPlainText text) :
    IsNumeralText text ∧ IsNumeralText (printed text) := by
  have htrue : IsNumeralText "true" := ⟨by decide, List.all_eq_true.1 (by decide)⟩
  have hfalse : IsNumeralText "false" := ⟨by decide, List.all_eq_true.1 (by decide)⟩
  unfold printed valueOfVariable
  split_ifs with htext htext'
  · exact ⟨isNumeralText_of_lowerCase htrue htext, htrue⟩
  · exact ⟨isNumeralText_of_lowerCase hfalse htext', hfalse⟩
  · cases hinteger : decimalOfText? text.toList with
    | some n =>
      exact ⟨⟨ne_nil_of_decimalOfText? hinteger, isNumeral_of_decimalOfText? hinteger⟩,
        toList_toString_ne_nil n, isNumeral_of_mem_toString n⟩
    | none =>
      cases hfloat : Binary64.ofText? text.toList with
      | some x =>
        exact ⟨⟨ne_nil_of_ofText? hfloat, isNumeral_of_ofText? hfloat⟩,
          toList_positional_ne_nil x, isNumeral_of_mem_positional x⟩
      | none => exact absurd ⟨htext, htext', hinteger, hfloat⟩ h

/-- A text of numerals is trimmed already. -/
theorem IsNumeralText.trim_eq {text : String} (h : IsNumeralText text) :
    trim text.toList = text.toList :=
  trim_of_forall_isBlank fun c hc => isBlank_of_isNumeral (h.2 c hc)

/-- A text of numerals can be used as a keyword. -/
theorem IsNumeralText.check {text : String} (h : IsNumeralText text) (numeric : Bool) :
    Settings.check ⟨text, numeric⟩ = .ok ⟨text, numeric⟩ := by
  have hfree : ∀ c, isNumeral c = false → c ∉ text.toList := by
    intro c hc hmem
    rw [h.2 c hmem] at hc
    contradiction
  rw [Settings.check_eq_ok_iff, h.trim_eq]
  refine ⟨⟨h.1, fun hhead => hfree '$' rfl ?_, hfree '(' rfl, hfree ')' rfl⟩, rfl⟩
  exact List.mem_of_mem_head? hhead

/-- What is printed for a usable keyword is usable. -/
theorem check_printed {text : String} {numeric : Bool}
    (h : Settings.check ⟨text, numeric⟩ = .ok ⟨text, numeric⟩) :
    Settings.check ⟨printed text, numeric⟩ = .ok ⟨printed text, numeric⟩ := by
  by_cases hplain : IsPlainText text
  · rw [printed_of_isPlainText hplain]
    exact h
  · exact (isNumeralText_of_not_isPlainText hplain).2.check numeric

/-- What is printed for a text differs from it behind the trimming, if at all. -/
theorem trim_printed_eq_iff {text : String} :
    trim (printed text).toList = trim text.toList ↔ printed text = text := by
  by_cases hplain : IsPlainText text
  · rw [printed_of_isPlainText hplain]
    exact iff_of_true rfl rfl
  · obtain ⟨htext, hprinted⟩ := isNumeralText_of_not_isPlainText hplain
    rw [htext.trim_eq, hprinted.trim_eq, String.toList_inj]

/-! ## The source of a single variable -/

/-- Variables that all make the same entry make it once, or none of them sets a key. -/
theorem sourceOfEnvironment_eq_or {env : Environment} {entry : String × Tree}
    (h : ∀ x ∈ env, ∀ key, keyOfVariable? x.1 = some key → (key, valueOfVariable x.2) = entry) :
    sourceOfEnvironment env = [] ∨ sourceOfEnvironment env = [entry] := by
  induction env using List.reverseRecOn with
  | nil => exact .inl rfl
  | append_singleton env x ih =>
    obtain ⟨name, value⟩ := x
    have henv := ih fun x hx => h x (List.mem_append_left _ hx)
    cases hkey : keyOfVariable? name with
    | none =>
      rw [sourceOfEnvironment_append_none hkey]
      exact henv
    | some key =>
      rw [sourceOfEnvironment_append_key hkey]
      obtain rfl : (key, valueOfVariable value) = entry :=
        h (name, value) (List.mem_append_right _ (List.mem_singleton.2 rfl)) key hkey
      obtain henv | henv := henv
      · exact .inr (by rw [henv, replaceEntry])
      · exact .inr (by rw [henv, replaceEntry, if_pos rfl])

/-- Variables of which only that for the keyword sets a key make one entry. -/
theorem sourceOfEnvironment_of_sets {env : Environment} {keyword : String}
    (hkeyword : Sets env directiveVariable keyword)
    (hothers : ∀ x ∈ env, (keyOfVariable? x.1).isSome → x.1 = directiveVariable) :
    sourceOfEnvironment env = [("validator.directive", valueOfVariable keyword)] := by
  have hdirective : keyOfVariable? directiveVariable = some "validator.directive" := by
    decide +kernel
  -- The environment may hold the variable more than once, but always with the same value.
  have hentry : ∀ x ∈ env, ∀ key, keyOfVariable? x.1 = some key →
      (key, valueOfVariable x.2) = ("validator.directive", valueOfVariable keyword) := by
    intro x hx key hkey
    have hname : x.1 = directiveVariable := hothers x hx (by rw [hkey]; rfl)
    have hkeys : key = "validator.directive" :=
      Option.some.inj (hkey.symm.trans (hname ▸ hdirective))
    have hvalue : x.2 = keyword := (hkeyword x.2).1 (hname ▸ hx)
    rw [hkeys, hvalue]
  obtain ⟨value, hvalue⟩ := exists_mem_sourceOfEnvironment ((hkeyword keyword).2 rfl) hdirective
  refine (sourceOfEnvironment_eq_or hentry).resolve_left fun hnil => ?_
  rw [hnil] at hvalue
  contradiction

/-- An empty table has no other order. -/
theorem Tree.arrange_nil (walk : List String → Walk) (path : List String) :
    (table []).arrange walk path = table [] := by
  rw [arrange, arrangeEntries, ((walk path).perm_order []).eq_nil]

variable {s : Surroundings}

/-- Without a file the tree says what the variables say. -/
theorem Surroundings.treeOf?_nil (env : Environment) :
    s.treeOf? [] env = (s.sourceOf? env).bind (Tree.table []).layer? := by
  rw [treeOf?, Tree.arrange_nil]
  rfl

/-- A variable that is no text stays so without a file of assignments. -/
theorem Surroundings.sourceOf?_environment (h : s.garbled ≠ []) :
    s.sourceOf? s.environment = none := by
  obtain ⟨name, hname⟩ := List.exists_mem_of_ne_nil _ h
  have hstays : s.isRepaired s.environment name = false := by
    cases name with
    | none => rfl
    | some name => cases hlookup : s.environment.lookup name <;> simp [isRepaired, hlookup]
  refine if_neg fun hall => ?_
  rw [List.all_eq_true.1 hall name hname] at hstays
  contradiction

/-- Where all variables are texts, the one that sets the keyword makes the only entry. -/
theorem Surroundings.sourceOf?_of_sets (hgarbled : s.garbled = []) {env : Environment}
    {keyword : String} (hkeyword : Sets env directiveVariable keyword)
    (hothers : ∀ x ∈ env, (keyOfVariable? x.1).isSome → x.1 = directiveVariable) :
    s.sourceOf? env = some [("validator.directive", valueOfVariable keyword)] := by
  have hperm := s.orders.environment.perm_order (sourceOfEnvironment env)
  rw [sourceOfEnvironment_of_sets hkeyword hothers] at hperm
  rw [sourceOf?, hgarbled, List.all_nil, if_pos rfl, sourceOfEnvironment_of_sets hkeyword hothers,
    List.perm_singleton.1 hperm]

/-- The configuration that a keyword alone makes. -/
theorem ofSources_directive {env : Environment} {value : Tree}
    (hsource : s.sourceOf? env = some [("validator.directive", value)]) (hvalue : value.IsScalar)
    {keyword : String} (htext : value.toText? = some keyword)
    (hcheck : Settings.check ⟨keyword, true⟩ = .ok ⟨keyword, true⟩) :
    ofSources s [] env = .ok ⟨⟨keyword, true⟩, false⟩ := by
  have hsteps : stepsOfKey "validator.directive" = [.child "validator", .child "directive"] := by
    decide +kernel
  have hvalidator : lowerCase "validator" = "validator" := by decide +kernel
  have hdirective : lowerCase "directive" = "directive" := by decide +kernel
  have htree : s.treeOf? [] env =
      some (.table [("validator", .table [("directive", value)])]) := by
    rw [Surroundings.treeOf?_nil, hsource]
    simp only [Option.bind_some, Tree.layer?, List.foldlM_cons, List.foldlM_nil, hsteps,
      Tree.place?_child hvalue, hvalidator, hdirective]
    rfl
  have hconfiguration : ofTree? (.table [("validator", .table [("directive", value)])]) =
      some ⟨⟨keyword, true⟩, false⟩ := by
    simp [ofTree?, settingsOf?, valueOr?, Tree.entries, List.lookup, htext]
  simp only [ofSources, htree, hconfiguration, hcheck]

/-! ## Loading -/

/-- A validator comes from settings that pass the check, whatever they say about numbers. -/
theorem check_of_ofSettings {keyword : String} {numeric : Bool} {v : Validator}
    (h : Validator.ofSettings ⟨keyword, numeric⟩ = .ok v) (numeric' : Bool) :
    Settings.check ⟨keyword, numeric'⟩ = .ok ⟨keyword, numeric'⟩ :=
  Settings.check_eq_ok_iff.2 ⟨(Validator.ofSettings_eq_ok_iff.1 h).1, rfl⟩

/-- Without any file, what is loaded is what the variables say. -/
theorem load_of_no_files (hfile : s.findFile? filePath = none)
    (hassignments : s.assignments? = none) :
    load s = (ofSources s [] s.environment).map fun c => (c, false) := by
  simp only [load, Surroundings.fullEnvironment?, hassignments,
    Surroundings.usualTable_of_none hfile]

/-- Without any file, a usable keyword from its variable is loaded as it is printed. -/
theorem load_eq_printed (hfile : s.findFile? filePath = none) (hassignments : s.assignments? = none)
    (hgarbled : s.garbled = []) {keyword : String}
    (hkeyword : Sets s.environment directiveVariable keyword)
    (hothers : ∀ x ∈ s.environment, (keyOfVariable? x.1).isSome → x.1 = directiveVariable)
    (hcheck : Settings.check ⟨keyword, true⟩ = .ok ⟨keyword, true⟩) :
    load s = .ok (⟨⟨printed keyword, true⟩, false⟩, false) := by
  have hsource := Surroundings.sourceOf?_of_sets hgarbled hkeyword hothers
  rw [load_of_no_files hfile hassignments, ofSources_directive hsource
    (isScalar_valueOfVariable keyword) (toText?_valueOfVariable keyword) (check_printed hcheck)]
  rfl

/-- Without any file, a variable that is no text breaks the program down. -/
theorem load_of_garbled (hfile : s.findFile? filePath = none) (hassignments : s.assignments? = none)
    (hgarbled : s.garbled ≠ []) : load s = .error .breakdown := by
  have htree : s.treeOf? [] s.environment = none := by
    rw [Surroundings.treeOf?_nil, Surroundings.sourceOf?_environment hgarbled, Option.bind_none]
  rw [load_of_no_files hfile hassignments, ofSources, htree]
  rfl

/-- Settings with the same keyword behind the trimming have the same marker, and no others. -/
theorem marker_eq_iff {s s' : Settings} {v v' : Validator} (h : Validator.ofSettings s = .ok v)
    (h' : Validator.ofSettings s' = .ok v') :
    v.directive.marker = v'.directive.marker ↔
      trim s.directive.toList = trim s'.directive.toList := by
  rw [Validator.eq_of_ofSettings h, Validator.eq_of_ofSettings h', ← String.toList_inj,
    Directive.toList_marker, Directive.toList_marker, Settings.keyword, Settings.keyword,
    String.toList_ofList, String.toList_ofList, List.cons.injEq]
  exact and_iff_right rfl

/-- Let a keyword be usable, and let its variable be the only one that sets a key, with no file
about. Where all variables are texts, a configuration is loaded, without falling back on the
defaults, and its keyword is what is printed for the keyword given: the same text if that is neither
a truth value nor a number. The validator for the loaded settings has the same marker as one for the
keyword itself exactly if the keyword is what is printed for it. Any variable that is no text breaks
the program down. -/
theorem load_keyword {s : Surroundings} (hfile : s.findFile? filePath = none)
    (hassignments : s.assignments? = none) {keyword : String}
    (hkeyword : Sets s.environment directiveVariable keyword)
    (hothers : ∀ x ∈ s.environment, (keyOfVariable? x.1).isSome → x.1 = directiveVariable)
    {numeric : Bool} {v : Validator} (hv : Validator.ofSettings ⟨keyword, numeric⟩ = .ok v) :
    (s.garbled = [] → ∃ (c : Configuration) (v' : Validator),
      load s = .ok (c, false) ∧ c.settings.directive = printed keyword ∧
      (IsPlainText keyword → c.settings.directive = keyword) ∧
      Validator.ofSettings c.settings = .ok v' ∧
      (v'.directive.marker = v.directive.marker ↔ c.settings.directive = keyword)) ∧
    (s.garbled ≠ [] → load s = .error .breakdown) := by
  refine ⟨fun hgarbled => ?_, load_of_garbled hfile hassignments⟩
  have hcheck := check_of_ofSettings hv true
  have hprinted := check_printed hcheck
  obtain ⟨v', hv'⟩ : ∃ v', Validator.ofSettings ⟨printed keyword, true⟩ = .ok v' :=
    ⟨_, by rw [Validator.ofSettings, hprinted, Except.map]⟩
  refine ⟨⟨⟨printed keyword, true⟩, false⟩, v',
    load_eq_printed hfile hassignments hgarbled hkeyword hothers hcheck, rfl,
    printed_of_isPlainText, hv', ?_⟩
  rw [marker_eq_iff hv' hv]
  exact trim_printed_eq_iff

/-- A keyword with blanks around it among other variables is loaded as it is. -/
theorem load_keyword_blanks :
    let s : Surroundings :=
      { environment := [("PATH", "/bin"), (directiveVariable, " 5 apples")] }
    let v : Validator := ⟨⟨"5 apples"⟩, ⟨true⟩⟩
    Validator.ofSettings ⟨" 5 apples", true⟩ = .ok v ∧
      ∃ c, load s = .ok (c, false) ∧ c.settings.directive = " 5 apples" := by
  intro s v
  have hv : Validator.ofSettings ⟨" 5 apples", true⟩ = .ok v := by cbv
  have hkeyword : Sets s.environment directiveVariable " 5 apples" := by
    intro value
    simp [s, directiveVariable]
  have hothers : ∀ x ∈ s.environment, (keyOfVariable? x.1).isSome → x.1 = directiveVariable := by
    decide +kernel
  obtain ⟨c, v', hload, -, hplain, -, -⟩ :=
    (load_keyword (by decide +kernel) (by decide +kernel) hkeyword hothers hv).1 rfl
  exact ⟨hv, c, hload, hplain (by decide +kernel)⟩

/-- Keywords that are read as truth values and numbers come back in another spelling: the marker is
`$true` where the settings themselves give `$TRUE`. -/
theorem load_changes_keyword :
    let s (keyword : String) : Surroundings := { environment := [(directiveVariable, keyword)] }
    load (s "TRUE") = .ok (⟨⟨"true", true⟩, false⟩, false) ∧
      load (s "007") = .ok (⟨⟨"7", true⟩, false⟩, false) ∧
      load (s "1e3") = .ok (⟨⟨"1000", true⟩, false⟩, false) ∧
      Validator.ofSettings ⟨"TRUE", true⟩ = .ok ⟨⟨"TRUE"⟩, ⟨true⟩⟩ ∧
      (⟨"TRUE"⟩ : Directive).marker ≠ (⟨"true"⟩ : Directive).marker := by
  intro s
  have hfile : ∀ keyword, (s keyword).findFile? filePath = none := by
    have hempty : findFile? Format.all {} filePath = none := by decide +kernel
    exact fun _ => hempty
  have hload : ∀ keyword, Settings.check ⟨keyword, true⟩ = .ok ⟨keyword, true⟩ →
      load (s keyword) = .ok (⟨⟨printed keyword, true⟩, false⟩, false) := by
    intro keyword hcheck
    have hkeyword : Sets (s keyword).environment directiveVariable keyword := by
      intro value
      simp [s]
    refine load_eq_printed (hfile keyword) rfl rfl hkeyword ?_ hcheck
    intro x hx _
    simp only [s, List.mem_singleton] at hx
    rw [hx]
  have htrue : printed "TRUE" = "true" := by decide +kernel
  have hinteger : printed "007" = "7" := by decide +kernel
  have hfloat : printed "1e3" = "1000" := by decide +kernel
  refine ⟨htrue ▸ hload "TRUE" (by cbv), hinteger ▸ hload "007" (by cbv),
    hfloat ▸ hload "1e3" (by cbv), by cbv, by decide +kernel⟩

end RequiredFields.Configuration
