import RequiredFields.Proofs.Command.Steps
import RequiredFields.Proofs.Configuration.Override
import RequiredFields.Proofs.Validator.Keyword
import RequiredFields.Settings.File

/-!
# Loaded settings are usable

Settings come from a YAML text, from a file, or with a configuration from its sources. All these
ways end in the check that a validator makes again (`isUsable_of_check`), but for one: where the
configuration file is broken the defaults stand unchecked. They pass as well, so settings that were
loaded give a validator (`isUsable_of_loaded`), and of a loaded configuration nothing stands in the
way of a report but the text of the record (`check_eq_error_iff`).
-/

namespace RequiredFields

open Json (exists_of_bind_eq_ok)

namespace Settings

/-- The settings give a validator. -/
def IsUsable (s : Settings) : Prop :=
  ∃ v, Validator.ofSettings s = .ok v

/-- The check lets usable settings through as they are. -/
theorem isUsable_of_check {s s' : Settings} (h : s.check = .ok s') : s' = s ∧ s.IsUsable := by
  obtain ⟨hkeyword, rfl⟩ := check_eq_ok_iff.1 h
  exact ⟨rfl, _, Validator.ofSettings_eq_ok_iff.2 ⟨hkeyword, rfl⟩⟩

/-- The settings in a text are usable. -/
theorem isUsable_of_ofYaml {text : String} {s : Settings} (h : ofYaml text = .ok s) :
    s.IsUsable := by
  unfold ofYaml at h
  split at h
  · contradiction
  · obtain ⟨rfl, hs⟩ := isUsable_of_check (eq_ok_of_mapError h)
    exact hs

/-- The settings in a file are usable. -/
theorem isUsable_of_ofFile {folder : Folder} {path : String} {s : Settings}
    (h : ofFile folder path = .ok s) : s.IsUsable := by
  obtain ⟨text, -, h⟩ := exists_of_bind_eq_ok h
  exact isUsable_of_ofYaml (eq_ok_of_mapError h)

end Settings

namespace Configuration

/-- The settings that sources say are usable. -/
theorem isUsable_of_ofSources {s : Surroundings} {file : List (String × Tree)} {env : Environment}
    {c : Configuration} (h : ofSources s file env = .ok c) : c.settings.IsUsable := by
  obtain ⟨t, settings, -, -, hcheck⟩ := exists_of_ofSources h
  exact (Settings.isUsable_of_check hcheck).2

/-- The settings from a given file and the environment are usable. -/
theorem isUsable_of_loadFrom {s : Surroundings} {path : String} {c : Configuration}
    (h : loadFrom s path = .ok c) : c.settings.IsUsable := by
  unfold loadFrom at h
  split at h
  · contradiction
  · split at h
    · contradiction
    · contradiction
    · exact isUsable_of_ofSources h

/-- The settings from the usual sources are usable, also where the defaults stand. -/
theorem isUsable_of_load {s : Surroundings} {c : Configuration} {fallback : Bool}
    (h : load s = .ok (c, fallback)) : c.settings.IsUsable := by
  obtain ⟨env, -, ⟨-, rfl, -⟩ | ⟨-, -, file, hsources⟩⟩ := load_cases h
  · -- Nothing checked the defaults on this way, so that they pass is computed here.
    have hdefault : Validator.ofSettings {} = .ok {} := by cbv
    exact ⟨_, hdefault⟩
  · exact isUsable_of_ofSources hsources

end Configuration

namespace Report

/-- A record that cannot be read is not a matter of settings. -/
theorem readRecord_ne_settings {format : RecordFormat} {text : String} {fault : Settings.Fault} :
    readRecord format text ≠ .error (.settings fault) := by
  intro h
  -- The fault of each format has a constructor of its own.
  cases format with
  | json =>
    obtain ⟨refusal, -, hfault⟩ := exists_of_mapError_eq_error h
    contradiction
  | yaml =>
    obtain ⟨refusal, -, hfault⟩ := exists_of_mapError_eq_error h
    contradiction

/-- With usable settings there is no report exactly if the record cannot be read, for the same
reason. -/
theorem check_eq_error_iff {s : Settings} (hs : s.IsUsable) {text : String} {source : Option String}
    {fault : Fault} :
    check text source s = .error fault ↔ readRecord (.ofSource source) text = .error fault := by
  obtain ⟨v, hv⟩ := hs
  constructor
  · intro h
    cases hread : readRecord (.ofSource source) text with
    | error fault' =>
      rw [check_of_refused hread] at h
      rw [Except.error.inj h]
    | ok record =>
      obtain ⟨notices, hcheck⟩ := check_of_readRecord hread hv
      rw [hcheck] at h
      contradiction
  · exact fun h => check_of_refused h s

end Report

/-- Whatever a text of settings, a file, a file of assignments, an environment and a path hold, and
however the formats of files are read: the settings that are loaded from them give a validator,
also the defaults that stand for a broken configuration file. So there is no report with a loaded
configuration exactly if the record cannot be read, and what the command says then is what is wrong
with the text of the record, never that settings cannot be used. -/
theorem isUsable_of_loaded :
    (∀ text s, Settings.ofYaml text = .ok s → s.IsUsable) ∧
    (∀ folder path s, Settings.ofFile folder path = .ok s → s.IsUsable) ∧
    (∀ surroundings path c, Configuration.loadFrom surroundings path = .ok c →
      c.settings.IsUsable) ∧
    (∀ surroundings c broken, Configuration.load surroundings = .ok (c, broken) →
      c.settings.IsUsable ∧
      ∀ text source fault, Report.check text source c.settings = .error fault ↔
        Report.readRecord (.ofSource source) text = .error fault) ∧
    (∀ surroundings source fault,
      (Command.run surroundings source).fault = some (.report fault) →
      (∃ text path, source.read = .ok (text, path) ∧
        Report.readRecord (.ofSource path) text = .error fault) ∧
      ∀ f, fault ≠ .settings f) := by
  refine ⟨fun _ _ => Settings.isUsable_of_ofYaml, fun _ _ _ => Settings.isUsable_of_ofFile,
    fun _ _ _ => Configuration.isUsable_of_loadFrom, ?_, ?_⟩
  · intro surroundings c broken hload
    have hs := Configuration.isUsable_of_load hload
    exact ⟨hs, fun _ _ _ => Report.check_eq_error_iff hs⟩
  · intro surroundings source fault hfault
    obtain ⟨c, broken, text, path, hload, hread, hcheck⟩ :=
      Command.exists_of_report_eq_error (Command.report_of_fault hfault)
    have hrecord := (Report.check_eq_error_iff (Configuration.isUsable_of_load hload)).1 hcheck
    refine ⟨⟨text, path, hread, hrecord⟩, ?_⟩
    rintro f rfl
    exact Report.readRecord_ne_settings hrecord

/-- The environment sets a keyword that cannot be used. Beside a configuration file that breaks off
the defaults stand all the same, and they are usable. -/
theorem isUsable_of_loaded_broken :
    let s : Configuration.Surroundings :=
      { folder := .ofPaths [("config/mandatoryif.json", .ofText "[")]
        environment := [(Configuration.directiveVariable, "$")] }
    ¬ (⟨"$", true⟩ : Settings).IsUsable ∧ Configuration.load s = .ok ({}, true) ∧
      ({} : Configuration).settings.IsUsable ∧
      ∀ text source fault, Report.check text source {} = .error fault ↔
        Report.readRecord (.ofSource source) text = .error fault := by
  intro s
  have hunusable : ¬ (⟨"$", true⟩ : Settings).IsUsable := by
    rintro ⟨v, hv⟩
    have hfault : Validator.ofSettings ⟨"$", true⟩ = .error (.reservedCharacter "$") := by cbv
    rw [hfault] at hv
    contradiction
  have hfull : s.fullEnvironment? = some [(Configuration.directiveVariable, "$")] := by
    decide +kernel
  have hfile : s.findFile? Configuration.filePath = some (.json, .ofText "[") := by
    decide +kernel
  have hbroken : s.HasBrokenFile := by
    rw [Configuration.Surroundings.HasBrokenFile,
      Configuration.Surroundings.usualTable_of_text hfile (by decide)]
    cbv
  have hload : Configuration.load s = .ok ({}, true) :=
    Configuration.load_of_hasBrokenFile hbroken hfull
  have hloaded := isUsable_of_loaded.2.2.2.1 s {} true hload
  exact ⟨hunusable, hload, hloaded.1, hloaded.2⟩

end RequiredFields
