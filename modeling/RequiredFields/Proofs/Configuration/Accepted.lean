import RequiredFields.Proofs.Configuration.Usable

/-!
# Accepted keywords

No way to a validator makes an exception for its keyword: the settings given directly, those in a
YAML text or a file, and those of a configuration from its sources are accepted and refused by the
trimmed keyword alone, and with the same fault (`Judges`). All of them answer what the check answers
(`judges_of_check`). The fault says that a keyword must not contain a `$`; the check looks for it at
the first place only, so that the keywords with a `$` further on are let through (`isAccepted_iff`,
`accepts_sign_inside`).
-/

namespace RequiredFields

open Text

namespace Settings

/-- The keywords that the faults of the settings speak of as usable: some text without the sign that
a marker starts with and without parentheses. -/
def IsDocumented (keyword : List Char) : Prop :=
  keyword ≠ [] ∧ '$' ∉ keyword ∧ '(' ∉ keyword ∧ ')' ∉ keyword

instance (keyword : List Char) : Decidable (IsDocumented keyword) :=
  inferInstanceAs (Decidable (_ ∧ _ ∧ _ ∧ _))

/-- The accepted keywords are the documented ones and those with a `$` behind their first
character. -/
theorem isAccepted_iff {keyword : List Char} :
    IsAccepted keyword ↔ IsDocumented keyword ∨
      ∃ c rest, keyword = c :: rest ∧ c ≠ '$' ∧ '$' ∈ rest ∧ '(' ∉ keyword ∧ ')' ∉ keyword := by
  cases keyword with
  | nil => simp [IsAccepted, IsDocumented]
  | cons c rest =>
    constructor
    · rintro ⟨hne, hhead, hopen, hclose⟩
      have hc : c ≠ '$' := fun hc => hhead (by rw [hc, List.head?_cons])
      by_cases hrest : '$' ∈ rest
      · exact .inr ⟨c, rest, rfl, hc, hrest, hopen, hclose⟩
      · exact .inl ⟨hne, by simp [hc.symm, hrest], hopen, hclose⟩
    · rintro (⟨hne, hsign, hopen, hclose⟩ | ⟨_, _, heq, hc, -, hopen, hclose⟩)
      · refine ⟨hne, fun hhead => hsign ?_, hopen, hclose⟩
        exact List.mem_of_mem_head? hhead
      · obtain ⟨rfl, rfl⟩ := List.cons.inj heq
        exact ⟨by simp, by simpa using hc, hopen, hclose⟩

/-- An answer goes by the keyword of settings that have been read: there is a result exactly for an
accepted keyword, and for any other keyword what is wrong with it is the fault. -/
structure Judges {ε α : Type} (s : Settings) (name : Fault → ε) (answer : Except ε α) : Prop where
  /-- Accepted keywords have a result, and no others have. -/
  accepts : (∃ a, answer = .ok a) ↔ IsAccepted (trim s.directive.toList)
  /-- All others have the fault. -/
  refuses : ¬ IsAccepted (trim s.directive.toList) → answer = .error (name s.refusal)

/-- What the check answers goes by the keyword, whatever is made of the settings or the fault. -/
theorem judges_of_check {ε α : Type} {s : Settings} {name : Fault → ε} (result : Settings → α)
    {answer : Except ε α} (h : answer = (s.check.map result).mapError name) :
    s.Judges name answer := by
  rw [check_eq] at h
  by_cases hkeyword : IsAccepted (trim s.directive.toList)
  · rw [if_pos hkeyword] at h
    exact ⟨⟨fun _ => hkeyword, fun _ => ⟨_, h⟩⟩, fun hrefused => absurd hkeyword hrefused⟩
  · rw [if_neg hkeyword] at h
    refine ⟨⟨?_, fun haccepted => absurd haccepted hkeyword⟩, fun _ => h⟩
    rintro ⟨a, ha⟩
    rw [h] at ha
    contradiction

/-- A validator is made of settings with an accepted keyword. -/
theorem judges_ofSettings (s : Settings) : s.Judges id (Validator.ofSettings s) := by
  refine judges_of_check (fun s => ⟨⟨s.keyword⟩, ⟨s.numericComparison⟩⟩) ?_
  rw [Validator.ofSettings]
  cases s.check <;> rfl

/-- Settings in a text are accepted by their keyword. -/
theorem judges_ofYaml {text : String} {s : Settings} (h : Yaml.rootOf text >>= ofNode = .ok s) :
    s.Judges YamlFault.unusable (ofYaml text) := by
  refine judges_of_check id ?_
  simp only [ofYaml, h]
  cases s.check <;> rfl

/-- Settings in a file are accepted by their keyword. -/
theorem judges_ofFile {folder : Folder} {path text : String} {s : Settings}
    (hread : folder.readText path = .ok text) (h : Yaml.rootOf text >>= ofNode = .ok s) :
    s.Judges (fun fault => FileFault.text (.unusable fault)) (ofFile folder path) := by
  have hfile : ofFile folder path = (ofYaml text).mapError .text := by
    rw [ofFile, hread]
    rfl
  refine judges_of_check id ?_
  simp only [hfile, ofYaml, h]
  cases s.check <;> rfl

end Settings

namespace Configuration

variable {s : Surroundings}

/-- The configuration that a file and variables say, before it is checked. -/
def said? (s : Surroundings) (file : List (String × Tree)) (env : Environment) :
    Option Configuration :=
  (s.treeOf? file env).bind ofTree?

/-- The configuration that is read from the file that a path means and from the environment
variables. -/
def readFrom? (s : Surroundings) (path : String) : Option Configuration := do
  let (format, content) ← s.findFile? path
  let file ← (s.tableOf format content).toOption
  said? s file s.environment

/-- The configuration that is read from the usual sources; none where the file is broken. -/
def readUsual? (s : Surroundings) : Option Configuration := do
  let env ← s.fullEnvironment?
  let file ← s.usualTable.toOption
  said? s file env

/-- A configuration that was read from its sources is checked. -/
theorem ofSources_eq {file : List (String × Tree)} {env : Environment} {c : Configuration}
    (h : said? s file env = some c) :
    ofSources s file env = (c.settings.check.map fun _ => c).mapError .unusable := by
  obtain ⟨t, ht, hc⟩ := Option.bind_eq_some_iff.1 h
  simp only [ofSources, ht, hc]
  cases c.settings.check <;> rfl

/-- What is there without its fault is a result. -/
theorem eq_ok_of_toOption {ε α : Type} {x : Except ε α} {a : α} (h : x.toOption = some a) :
    x = .ok a := by
  cases x with
  | error e => contradiction
  | ok a' => exact congrArg _ (Option.some.inj h)

/-- A configuration from a given file and the environment is accepted by its keyword. -/
theorem judges_loadFrom {path : String} {c : Configuration} (h : readFrom? s path = some c) :
    c.settings.Judges Fault.unusable (loadFrom s path) := by
  obtain ⟨⟨format, content⟩, hfile, h⟩ := Option.bind_eq_some_iff.1 h
  obtain ⟨file, htable, hsaid⟩ := Option.bind_eq_some_iff.1 h
  refine Settings.judges_of_check (fun _ => c) ?_
  simp only [loadFrom, hfile, eq_ok_of_toOption htable]
  exact ofSources_eq hsaid

/-- A configuration from the usual sources is accepted by its keyword. -/
theorem judges_load {c : Configuration} (h : readUsual? s = some c) :
    c.settings.Judges Fault.unusable (load s) := by
  obtain ⟨env, hfull, h⟩ := Option.bind_eq_some_iff.1 h
  obtain ⟨file, htable, hsaid⟩ := Option.bind_eq_some_iff.1 h
  refine Settings.judges_of_check (fun _ => (c, false)) ?_
  simp only [load, hfull, eq_ok_of_toOption htable, ofSources_eq hsaid]
  cases c.settings.check <;> rfl

end Configuration

/-- A keyword is accepted or refused by its trimmed text alone, whatever the settings say about
numbers, and in the same way wherever the settings were read: given directly, in a YAML text, in a
file, in a configuration with the file that a path means, or in one from the usual sources. The
accepted texts are all that are documented, that is those that are not empty and have no `$` and no
parenthesis, and beside them the texts without parentheses that have a `$` but not in front. -/
theorem keywords_accepted (s : Settings) :
    let keyword := trim s.directive.toList
    s.Judges id (Validator.ofSettings s) ∧
    (∀ text, Yaml.rootOf text >>= Settings.ofNode = .ok s →
      s.Judges Settings.YamlFault.unusable (Settings.ofYaml text)) ∧
    (∀ (folder : Folder) path text, folder.readText path = .ok text →
      Yaml.rootOf text >>= Settings.ofNode = .ok s →
      s.Judges (fun fault => Settings.FileFault.text (.unusable fault))
        (Settings.ofFile folder path)) ∧
    (∀ surroundings path pretty, Configuration.readFrom? surroundings path = some ⟨s, pretty⟩ →
      s.Judges Configuration.Fault.unusable (Configuration.loadFrom surroundings path)) ∧
    (∀ surroundings pretty, Configuration.readUsual? surroundings = some ⟨s, pretty⟩ →
      s.Judges Configuration.Fault.unusable (Configuration.load surroundings)) ∧
    (Settings.IsAccepted keyword ↔ Settings.IsDocumented keyword ∨
      ∃ c rest, keyword = c :: rest ∧ c ≠ '$' ∧ '$' ∈ rest ∧ '(' ∉ keyword ∧ ')' ∉ keyword) :=
  ⟨Settings.judges_ofSettings s, fun _ => Settings.judges_ofYaml,
    fun _ _ _ => Settings.judges_ofFile, fun _ _ _ => Configuration.judges_loadFrom,
    fun _ _ => Configuration.judges_load, Settings.isAccepted_iff⟩

/-- A blank keyword in a text and in a file, one with parentheses in the file that a path means, and
one with blanks around it in its variable. -/
theorem keywords_accepted_somewhere :
    let blank := "directive: ' '"
    let folder : Folder := .ofPaths [("c.yaml", .ofText blank)]
    let called : Configuration.Surroundings :=
      { folder := .ofPaths [("d.json", .ofText "\x7b\"validator\": [\"when(x)\"]\x7d")] }
    let spaced : Configuration.Surroundings :=
      { environment := [(Configuration.directiveVariable, " if ")] }
    (Yaml.rootOf blank >>= Settings.ofNode = .ok ⟨" ", true⟩ ∧
      Settings.ofYaml blank = .error (.unusable .emptyKeyword)) ∧
    (folder.readText "c.yaml" = .ok blank ∧
      Settings.ofFile folder "c.yaml" = .error (.text (.unusable .emptyKeyword))) ∧
    (Configuration.readFrom? called "d.json" = some ⟨⟨"when(x)", true⟩, false⟩ ∧
      Configuration.loadFrom called "d.json" =
        .error (.unusable (.reservedCharacter "when(x)"))) ∧
    (Configuration.readUsual? spaced = some ⟨⟨" if ", true⟩, false⟩ ∧
      ∃ c, Configuration.load spaced = .ok c) := by
  intro blank folder called spaced
  have htext : Yaml.rootOf blank >>= Settings.ofNode = .ok ⟨" ", true⟩ := by decide +kernel
  have hfile : folder.readText "c.yaml" = .ok blank := by decide +kernel
  have hpath : Configuration.readFrom? called "d.json" = some ⟨⟨"when(x)", true⟩, false⟩ := by
    decide +kernel
  have hvariable : Configuration.readUsual? spaced = some ⟨⟨" if ", true⟩, false⟩ := by
    decide +kernel
  obtain ⟨-, htexts, hfiles, -⟩ := keywords_accepted ⟨" ", true⟩
  obtain ⟨-, -, -, hcalled, -⟩ := keywords_accepted ⟨"when(x)", true⟩
  obtain ⟨-, -, -, -, husual, -⟩ := keywords_accepted ⟨" if ", true⟩
  exact ⟨⟨htext, (htexts _ htext).refuses (by decide)⟩,
    ⟨hfile, (hfiles _ _ _ hfile htext).refuses (by decide)⟩,
    ⟨hpath, (hcalled _ _ _ hpath).refuses (by decide)⟩,
    ⟨hvariable, (husual _ _ hvariable).accepts.2 (by decide)⟩⟩

/-- The keyword `a$` has a `$` and is accepted all the same, given directly, in a text and in its
variable. So it is not true that just the documented keywords are accepted. -/
theorem accepts_sign_inside :
    let usual : Configuration.Surroundings :=
      { environment := [(Configuration.directiveVariable, "a$")] }
    Validator.ofSettings ⟨"a$", true⟩ = .ok ⟨⟨"a$"⟩, ⟨true⟩⟩ ∧
      Settings.ofYaml "directive: a$" = .ok ⟨"a$", true⟩ ∧
      Configuration.load usual = .ok (⟨⟨"a$", true⟩, false⟩, false) ∧
      ¬ ∀ s : Settings, (∃ v, Validator.ofSettings s = .ok v) ↔
        Settings.IsDocumented (trim s.directive.toList) := by
  intro usual
  have hv : Validator.ofSettings ⟨"a$", true⟩ = .ok ⟨⟨"a$"⟩, ⟨true⟩⟩ := by decide +kernel
  refine ⟨hv, by decide +kernel, by decide +kernel, fun h => ?_⟩
  have hdocumented := (h ⟨"a$", true⟩).1 ⟨_, hv⟩
  exact absurd hdocumented (by decide)

end RequiredFields
