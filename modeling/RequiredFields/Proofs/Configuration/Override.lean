import Mathlib
import RequiredFields.Proofs.Configuration.Environment
import RequiredFields.Proofs.Configuration.Loading

/-!
# Variables that win over the file

Each setting has a place in the tree and a usual variable. Where no other variable sets anything at
this place (`Undisputed`), it holds what the usual variable says, whatever the file has there and in
whatever order things come up (`at?_of_treeOf?`), and the configuration is taken from there. So the
environment wins whenever a configuration is read at all (`load_overrides`). It does not win over a
file that is there and broken, which brings the defaults for everything, nor over the file of
assignments where that sets the same key by a variable with another name
(`load_ignores_environment`).
-/

namespace RequiredFields.Configuration

/-- A whole number is a scalar, as is what any other text of a variable says. -/
theorem isScalar_valueOfVariable (text : String) : (valueOfVariable text).IsScalar := by
  unfold valueOfVariable
  split_ifs
  · trivial
  · trivial
  · split
    · trivial
    · split <;> trivial

/-! ## The usual variables -/

/-- The variable for the keyword. -/
def directiveVariable : String := "MANDATORYIF_VALIDATOR__DIRECTIVE"

/-- The variable for the order of numbers. -/
def numericVariable : String := "MANDATORYIF_VALIDATOR__NUMERIC_COMPARISON"

/-- The variable for the form of the report. -/
def prettyVariable : String := "MANDATORYIF_PRETTY"

/-- What a configuration is taken from. -/
inductive Setting where
  /-- The keyword. -/
  | directive
  /-- Whether numbers are compared. -/
  | numeric
  /-- The form of the report. -/
  | pretty
  deriving DecidableEq, Repr

namespace Setting

/-- The variable that a setting usually has. -/
def name : Setting → String
  | directive => directiveVariable
  | numeric => numericVariable
  | pretty => prettyVariable

/-- The keys that lead to a setting in a tree. -/
def path : Setting → List String
  | directive => ["validator", "directive"]
  | numeric => ["validator", "numeric_comparison"]
  | pretty => ["pretty"]

/-- The usual variable of a setting sets what the keys of the setting lead to. -/
theorem stepsOfKey_name (setting : Setting) :
    ∃ key, keyOfVariable? setting.name = some key ∧
      stepsOfKey key = setting.path.map .child ∧ setting.path.map lowerCase = setting.path := by
  cases setting with
  | directive =>
    exact ⟨"validator.directive", by decide +kernel, by decide +kernel, by decide +kernel⟩
  | numeric =>
    exact ⟨"validator.numeric_comparison", by decide +kernel, by decide +kernel, by decide +kernel⟩
  | pretty => exact ⟨"pretty", by decide +kernel, by decide +kernel, by decide +kernel⟩

end Setting

/-- A setting is left to its usual variable: whatever other variables set lies elsewhere. -/
def Undisputed (env : Environment) (setting : Setting) : Prop :=
  ∀ x ∈ env, x.1 ≠ setting.name → ∀ key ∈ keyOfVariable? x.1,
    Tree.Parts (stepsOfKey key) setting.path

instance (env : Environment) (setting : Setting) : Decidable (Undisputed env setting) :=
  inferInstanceAs (Decidable (∀ x ∈ env, _ → ∀ key ∈ keyOfVariable? x.1, _))

/-- A setting is left to its usual variable, also by the file of assignments. -/
def Surroundings.Undisputed (s : Surroundings) (setting : Setting) : Prop :=
  ∀ env, s.fullEnvironment? = some env → Configuration.Undisputed env setting

variable {s : Surroundings}

/-- What the variables say comes up in some order. -/
theorem Surroundings.perm_of_sourceOf? {env : Environment} {source : List (String × Tree)}
    (h : s.sourceOf? env = some source) : source.Perm (sourceOfEnvironment env) := by
  unfold sourceOf? at h
  split_ifs at h
  rw [← Option.some.inj h]
  exact s.orders.environment.perm_order _

/-- What the variables say comes from their own steps: from the usual variable of a setting, or from
one that leaves the setting alone. -/
theorem Undisputed.of_mem_sourceOfEnvironment {env : Environment} {setting : Setting}
    (henv : Undisputed env setting) {value : String} (h : Sets env setting.name value)
    {key : String} (hkey : keyOfVariable? setting.name = some key) {entry : String × Tree}
    (hentry : entry ∈ sourceOfEnvironment env) :
    entry = (key, valueOfVariable value) ∨
      (Tree.Parts (stepsOfKey entry.1) setting.path ∧ entry.2.IsScalar) := by
  obtain ⟨x, hx, hxkey, hxvalue⟩ := exists_of_mem_sourceOfEnvironment hentry
  by_cases hne : x.1 = setting.name
  · have hkeys : entry.1 = key := Option.some.inj (hxkey.symm.trans (hne ▸ hkey))
    have hvalues : x.2 = value := (h x.2).1 (hne ▸ hx)
    exact .inl (Prod.ext hkeys (hvalues ▸ hxvalue))
  · exact .inr ⟨henv x hx hne entry.1 hxkey, hxvalue ▸ isScalar_valueOfVariable x.2⟩

/-- Behind the variables, the place of a setting holds what its usual variable says, whatever the
file has there and in whatever order the variables come up. -/
theorem at?_of_treeOf? {file : List (String × Tree)} {env : Environment} {t : Tree}
    (ht : s.treeOf? file env = some t) {setting : Setting} (henv : Undisputed env setting)
    {value : String} (h : Sets env setting.name value) :
    t.at? setting.path = some (valueOfVariable value) := by
  obtain ⟨base, -, ht⟩ := Option.bind_eq_some_iff.1 ht
  obtain ⟨source, hsource, ht⟩ := Option.bind_eq_some_iff.1 ht
  have hperm := Surroundings.perm_of_sourceOf? hsource
  obtain ⟨key, hkey, hsteps, hlower⟩ := setting.stepsOfKey_name
  have hset : ∀ t t', Tree.place? (valueOfVariable value) (stepsOfKey key) t = some t' →
      t'.at? setting.path = some (valueOfVariable value) := by
    intro t t' hplace
    obtain ⟨t'', hplace', hat⟩ :=
      Tree.exists_place? (isScalar_valueOfVariable value) setting.path t
    rw [hsteps, hplace'] at hplace
    rwa [hlower, Option.some.inj hplace] at hat
  have hentry : ∀ entry ∈ source, entry = (key, valueOfVariable value) ∨
      (Tree.Parts (stepsOfKey entry.1) setting.path ∧ entry.2.IsScalar) :=
    fun entry hmem => henv.of_mem_sourceOfEnvironment h hkey (hperm.mem_iff.1 hmem)
  refine Tree.at?_of_layer? ?_ ?_ ht
  · obtain ⟨v, hv⟩ := exists_mem_sourceOfEnvironment ((h value).2 rfl) hkey
    refine ⟨(key, v), hperm.mem_iff.2 hv, ?_⟩
    obtain heq | ⟨hparts, -⟩ := hentry _ (hperm.mem_iff.2 hv)
    · rw [heq]
      exact hset
    · -- The entry has the key of the variable, whose steps do lead along the path.
      have hself := Tree.not_parts_map_child setting.path
      rw [hlower, ← hsteps] at hself
      exact absurd hparts hself
  · intro entry hmem
    obtain rfl | ⟨hparts, hscalar⟩ := hentry entry hmem
    · exact .inl hset
    · exact .inr fun t t' hplace => Tree.at?_of_parts hscalar hparts hplace

/-- What the environment sets is set behind the file of assignments. -/
theorem Sets.of_fullEnvironment? {name value : String} (h : Sets s.environment name value)
    {env : Environment} (hfull : s.fullEnvironment? = some env) : Sets env name value := by
  unfold Surroundings.fullEnvironment? at hfull
  split at hfull
  · exact h.of_assign? hfull
  · rwa [← Option.some.inj hfull]

/-! ## Loading -/

/-- The text is neither a truth value nor a number. -/
def IsPlainText (text : String) : Prop :=
  lowerCase text ≠ "true" ∧ lowerCase text ≠ "false" ∧ decimalOfText? text.toList = none ∧
    Binary64.ofText? text.toList = none

instance (text : String) : Decidable (IsPlainText text) :=
  inferInstanceAs (Decidable (_ ∧ _ ∧ _ ∧ _))

/-- A text that is neither a truth value nor a number stays as it is. -/
theorem valueOfVariable_of_isPlainText {text : String} (h : IsPlainText text) :
    valueOfVariable text = .text text := by
  obtain ⟨htrue, hfalse, hinteger, hfloat⟩ := h
  simp only [valueOfVariable, if_neg htrue, if_neg hfalse, hinteger, hfloat]

/-- A truth value as the text of a variable. -/
def boolText (b : Bool) : String :=
  if b then "true" else "false"

/-- The text of a truth value says that truth value. -/
theorem valueOfVariable_boolText (b : Bool) : valueOfVariable (boolText b) = .boolean b := by
  have htrue : lowerCase "true" = "true" := by decide +kernel
  have hfalse : lowerCase "false" = "false" := by decide +kernel
  cases b with
  | true => simp [valueOfVariable, boolText, htrue]
  | false => simp [valueOfVariable, boolText, hfalse]

/-- Whatever the file says, a configuration from it and the variables has what the usual variables
set. -/
theorem overrides_of_ofSources {file : List (String × Tree)} {env : Environment}
    {c : Configuration} (h : ofSources s file env = .ok c) :
    (∀ keyword, IsPlainText keyword → Undisputed env .directive →
      Sets env directiveVariable keyword → c.settings.directive = keyword) ∧
    (∀ b, Undisputed env .numeric → Sets env numericVariable (boolText b) →
      c.settings.numericComparison = b) ∧
    (∀ b, Undisputed env .pretty → Sets env prettyVariable (boolText b) → c.pretty = b) := by
  -- Behind the variables it no longer matters what the file has at the place of a setting.
  obtain ⟨t, -, ht, hc, -⟩ := exists_of_ofSources h
  refine ⟨fun keyword htext henv hset => ?_, fun b henv hset => ?_, fun b henv hset => ?_⟩
  · have hdirective := toText?_of_ofTree? hc (at?_of_treeOf? ht henv hset)
    rw [valueOfVariable_of_isPlainText htext] at hdirective
    exact (Option.some.inj hdirective).symm
  · have hnumeric := numeric_of_ofTree? hc (at?_of_treeOf? ht henv hset)
    rw [valueOfVariable_boolText] at hnumeric
    exact (Option.some.inj hnumeric).symm
  · have hpretty := pretty_of_ofTree? hc (at?_of_treeOf? ht henv hset)
    rw [valueOfVariable_boolText] at hpretty
    exact (Option.some.inj hpretty).symm

/-- Let the environment set the keyword, to a text that is neither a truth value nor a number, and
let no other variable, there or in the file of assignments, set anything at its place. A
configuration that is loaded has this keyword, and each of the two truth values that the environment
alone sets is as set there, whatever the files say, however they are read and in whatever orders
formats, tables and variables come up; only a configuration file that is there and broken brings the
defaults. -/
theorem load_overrides {s : Surroundings} {keyword : String}
    (hkeyword : Sets s.environment directiveVariable keyword) (htext : IsPlainText keyword)
    (hothers : s.Undisputed .directive) {c : Configuration} {fallback : Bool}
    (h : load s = .ok (c, fallback)) :
    (fallback = true ↔ s.HasBrokenFile) ∧ (fallback = true → c = {}) ∧
    (fallback = false → c.settings.directive = keyword ∧
      (∀ b, s.Undisputed .numeric → Sets s.environment numericVariable (boolText b) →
        c.settings.numericComparison = b) ∧
      (∀ b, s.Undisputed .pretty → Sets s.environment prettyVariable (boolText b) →
        c.pretty = b)) := by
  obtain ⟨env, hfull, ⟨hbroken, rfl, rfl⟩ | ⟨hbroken, rfl, file, hsources⟩⟩ := load_cases h
  · exact ⟨iff_of_true rfl hbroken, fun _ => rfl, fun hfalse => by contradiction⟩
  · obtain ⟨hdirective, hnumeric, hpretty⟩ := overrides_of_ofSources hsources
    refine ⟨iff_of_false Bool.false_ne_true hbroken, fun htrue => by contradiction, fun _ => ?_⟩
    exact ⟨hdirective keyword htext (hothers env hfull) (hkeyword.of_fullEnvironment? hfull),
      fun b henv hset => hnumeric b (henv env hfull) (hset.of_fullEnvironment? hfull),
      fun b henv hset => hpretty b (henv env hfull) (hset.of_fullEnvironment? hfull)⟩

/-- Two variables win over a configuration file in another format that says otherwise about one of
them, beside a variable of no account in the file of assignments of the folder above. -/
theorem load_overrides_file :
    let toml := "pretty = false\n"
    let folder : Folder := .ofPaths [("home/.env", .ofText "MANDATORYIF_VALIDATOR__FOO=1\n"),
      ("home/work/config/mandatoryif.toml", .ofText toml)]
    let s : Surroundings :=
      { folder := { folder with names := ["home", "work"] }
        environment := [(directiveVariable, "needs"), (prettyVariable, "true")]
        readers := fun format text =>
          if format = .toml ∧ text = toml then .ok [("pretty", .boolean false)]
          else ownReaders format text }
    let c : Configuration := ⟨⟨"needs", true⟩, true⟩
    load s = .ok (c, false) ∧ c.settings.directive = "needs" ∧ c.pretty = true := by
  intro toml folder s c
  have hkeyword : Sets s.environment directiveVariable "needs" := by
    intro v
    simp [s, directiveVariable, prettyVariable]
  have hpretty : Sets s.environment prettyVariable (boolText true) := by
    intro v
    simp [s, directiveVariable, prettyVariable, boolText]
  have hfull : s.fullEnvironment? = some [(directiveVariable, "needs"), (prettyVariable, "true"),
      ("MANDATORYIF_VALIDATOR__FOO", "1")] := by
    have hassignments : s.assignments? = some (.ofText "MANDATORYIF_VALIDATOR__FOO=1\n") := by
      decide +kernel
    have hread : readLine (fun name => (s.environment.lookup name).getD "")
        (withoutBreak "MANDATORYIF_VALIDATOR__FOO=1\n".toList) =
        .assignment "MANDATORYIF_VALIDATOR__FOO" "1" := by cbv
    rw [Surroundings.fullEnvironment?, hassignments]
    exact assign?_of_line (by decide +kernel) (by decide +kernel) (by decide +kernel) hread
      (by decide +kernel) (by decide)
  have hothers : ∀ setting, s.Undisputed setting := by
    intro setting env henv
    rw [hfull] at henv
    obtain rfl := Option.some.inj henv
    cases setting with
    | directive | numeric | pretty => decide +kernel
  have hload : load s = .ok (c, false) := by
    have htable : s.usualTable = .ok [("pretty", .boolean false)] := by
      have hfile : s.findFile? filePath = some (.toml, .ofText toml) := by decide +kernel
      rw [Surroundings.usualTable_of_text hfile (by decide)]
      simp [s]
    have hsources : ofSources s [("pretty", .boolean false)] [(directiveVariable, "needs"),
        (prettyVariable, "true"), ("MANDATORYIF_VALIDATOR__FOO", "1")] = .ok c := by
      decide +kernel
    simp only [load, hfull, htable, hsources]
    rfl
  obtain ⟨hdirective, -, hprint⟩ :=
    (load_overrides hkeyword (by decide +kernel) (hothers .directive) hload).2.2 rfl
  exact ⟨hload, hdirective, hprint true (hothers .pretty) hpretty⟩

/-- The environment sets the keyword alone. With a configuration file that breaks off, the default
keyword stands; and a file of assignments that spells the name of the variable in lower case sets
another keyword. -/
theorem load_ignores_environment :
    let env : Environment := [(directiveVariable, "needs")]
    let broken : Surroundings :=
      { folder := .ofPaths [("config/mandatoryif.json", .ofText "[")], environment := env }
    let respelled : Surroundings :=
      { folder := .ofPaths [(".env", .ofText "mandatoryif_validator__directive=a\n")]
        environment := env }
    Sets env directiveVariable "needs" ∧ IsPlainText "needs" ∧
      Settings.check ⟨"needs", true⟩ = .ok ⟨"needs", true⟩ ∧
      load broken = .ok ({}, true) ∧ load respelled = .ok (⟨⟨"a", true⟩, false⟩, false) := by
  intro env broken respelled
  have hsets : Sets env directiveVariable "needs" := by
    intro v
    simp [env]
  have hbroken : load broken = .ok ({}, true) := by
    have hfull : broken.fullEnvironment? = some env := by decide +kernel
    have hfile : broken.findFile? filePath = some (.json, .ofText "[") := by decide +kernel
    have hbroken : broken.HasBrokenFile := by
      rw [Surroundings.HasBrokenFile, Surroundings.usualTable_of_text hfile (by decide)]
      cbv
    exact load_of_hasBrokenFile hbroken hfull
  have hrespelled : load respelled = .ok (⟨⟨"a", true⟩, false⟩, false) := by
    have hfull : respelled.fullEnvironment? =
        some [(directiveVariable, "needs"), ("mandatoryif_validator__directive", "a")] := by
      have hassignments : respelled.assignments? =
          some (.ofText "mandatoryif_validator__directive=a\n") := by decide +kernel
      have hread : readLine (fun name => (env.lookup name).getD "")
          (withoutBreak "mandatoryif_validator__directive=a\n".toList) =
          .assignment "mandatoryif_validator__directive" "a" := by cbv
      rw [Surroundings.fullEnvironment?, hassignments]
      exact assign?_of_line (by decide +kernel) (by decide +kernel) (by decide +kernel) hread
        (by decide +kernel) (by decide)
    have htable : respelled.usualTable = .ok [] :=
      Surroundings.usualTable_of_none (by decide +kernel)
    have hsources : ofSources respelled [] [(directiveVariable, "needs"),
        ("mandatoryif_validator__directive", "a")] = .ok ⟨⟨"a", true⟩, false⟩ := by decide +kernel
    simp only [load, hfull, htable, hsources]
    rfl
  exact ⟨hsets, by decide +kernel, by cbv, hbroken, hrespelled⟩

end RequiredFields.Configuration
