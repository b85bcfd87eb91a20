import RequiredFields.Configuration
import RequiredFields.Proofs.Configuration.Tree
import RequiredFields.Proofs.Text.Encoding

/-!
# What a loaded configuration comes from

A configuration is taken from three places of a tree, and the tree comes from the sources
(`exists_of_ofSources`). A configuration that is loaded from the usual sources either comes from
such a tree or, where the configuration file is broken, is the default one (`load_cases`).
-/

namespace RequiredFields.Configuration

/-! ## What a tree says -/

/-- A value that is there is read. -/
theorem of_valueOr? {α : Type} {default x : α} {read : Tree → Option α} {found : Option Tree}
    (h : valueOr? default read found = some x) {t : Tree} (ht : found = some t) :
    read t = some x := by
  rw [ht] at h
  exact h

/-- What a configuration takes from the table of the validator. -/
theorem settings_of_ofTree? {t : Tree} {c : Configuration} (h : ofTree? t = some c)
    {entries : List (String × Tree)} (ht : t.entries.lookup "validator" = some (.table entries)) :
    valueOr? "mandatoryIf" Tree.toText? (entries.lookup "directive") = some c.settings.directive ∧
      valueOr? true Tree.toBool? (entries.lookup "numeric_comparison") =
        some c.settings.numericComparison := by
  obtain ⟨settings, hsettings, h⟩ := Option.bind_eq_some_iff.1 h
  obtain ⟨pretty, -, h⟩ := Option.bind_eq_some_iff.1 h
  obtain rfl := Option.some.inj h
  have htable := of_valueOr? hsettings ht
  obtain ⟨directive, hdirective, h⟩ := Option.bind_eq_some_iff.1 htable
  obtain ⟨numeric, hnumeric, h⟩ := Option.bind_eq_some_iff.1 h
  obtain rfl := Option.some.inj h
  exact ⟨hdirective, hnumeric⟩

/-- A path of two keys leads through a table. -/
theorem exists_table_of_at? {t : Tree} {name key : String} {value : Tree}
    (h : t.at? [name, key] = some value) :
    ∃ entries, t.entries.lookup name = some (.table entries) ∧ entries.lookup key = some value := by
  obtain ⟨child, hchild, h⟩ := Option.bind_eq_some_iff.1 h
  obtain ⟨grandchild, hgrandchild, h⟩ := Option.bind_eq_some_iff.1 h
  obtain rfl := Option.some.inj h
  cases child with
  | table entries => exact ⟨entries, hchild, hgrandchild⟩
  | nothing | boolean | integer | float | text | list => contradiction

/-- The keyword is the text of what stands at its place in the tree. -/
theorem toText?_of_ofTree? {t : Tree} {c : Configuration} (h : ofTree? t = some c) {value : Tree}
    (hvalue : t.at? ["validator", "directive"] = some value) :
    value.toText? = some c.settings.directive := by
  obtain ⟨entries, htable, hentry⟩ := exists_table_of_at? hvalue
  exact of_valueOr? (settings_of_ofTree? h htable).1 hentry

/-- Whether numbers are compared is the truth value of what stands at its place in the tree. -/
theorem numeric_of_ofTree? {t : Tree} {c : Configuration} (h : ofTree? t = some c) {value : Tree}
    (hvalue : t.at? ["validator", "numeric_comparison"] = some value) :
    value.toBool? = some c.settings.numericComparison := by
  obtain ⟨entries, htable, hentry⟩ := exists_table_of_at? hvalue
  exact of_valueOr? (settings_of_ofTree? h htable).2 hentry

/-- The form of the report is the truth value of what stands at its place in the tree. -/
theorem pretty_of_ofTree? {t : Tree} {c : Configuration} (h : ofTree? t = some c) {value : Tree}
    (hvalue : t.at? ["pretty"] = some value) : value.toBool? = some c.pretty := by
  obtain ⟨found, hfound, hat⟩ := Option.bind_eq_some_iff.1 hvalue
  obtain rfl := Option.some.inj hat
  obtain ⟨settings, -, h⟩ := Option.bind_eq_some_iff.1 h
  obtain ⟨pretty, hpretty, h⟩ := Option.bind_eq_some_iff.1 h
  obtain rfl := Option.some.inj h
  exact of_valueOr? hpretty hfound

/-! ## Loading -/

variable {s : Surroundings}

/-- A configuration from sources is what their tree says, and passes the check. -/
theorem exists_of_ofSources {file : List (String × Tree)} {env : Environment} {c : Configuration}
    (h : ofSources s file env = .ok c) :
    ∃ t settings, s.treeOf? file env = some t ∧ ofTree? t = some c ∧
      c.settings.check = .ok settings := by
  unfold ofSources at h
  split at h
  · contradiction
  · next t ht =>
    split at h
    · contradiction
    · next c' hc =>
      split at h
      · contradiction
      · next settings hcheck =>
        obtain rfl := Except.ok.inj h
        exact ⟨t, settings, ht, hc, hcheck⟩

/-- A configuration file that holds a text says what the reader of its format makes of the text. -/
theorem Surroundings.usualTable_of_text {format : Format} {text : String}
    (h : s.findFile? filePath = some (format, .ofText text))
    (hmark : text.toList.head? ≠ some '\uFEFF') : s.usualTable = s.readers format text := by
  rw [usualTable, h]
  dsimp only
  rw [tableOf, Octets.withoutMark_ofText hmark, Octets.toTextLossy_ofText]

/-- Without a configuration file there is nothing in it. -/
theorem Surroundings.usualTable_of_none (h : s.findFile? filePath = none) :
    s.usualTable = .ok [] := by
  rw [usualTable, h]

/-- The configuration file is there and broken. -/
def Surroundings.HasBrokenFile (s : Surroundings) : Prop :=
  s.usualTable = .error .broken

/-- With a broken file the command goes on with the defaults. -/
theorem load_of_hasBrokenFile (h : s.HasBrokenFile) {env : Environment}
    (hfull : s.fullEnvironment? = some env) : load s = .ok ({}, true) := by
  rw [load, hfull]
  dsimp only
  rw [h]

/-- Where a configuration is loaded, the variables are known; beside a broken file it is the default
one, and otherwise it comes from sources. -/
theorem load_cases {c : Configuration} {fallback : Bool} (h : load s = .ok (c, fallback)) :
    ∃ env, s.fullEnvironment? = some env ∧
      ((s.HasBrokenFile ∧ c = {} ∧ fallback = true) ∨
        (¬ s.HasBrokenFile ∧ fallback = false ∧ ∃ file, ofSources s file env = .ok c)) := by
  unfold load at h
  split at h
  · contradiction
  · next env hfull =>
    refine ⟨env, hfull, ?_⟩
    split at h
    · next hbroken =>
      obtain ⟨rfl, rfl⟩ := Prod.mk.inj (Except.ok.inj h)
      exact .inl ⟨hbroken, rfl, rfl⟩
    · contradiction
    · next file hfile =>
      have hbroken : ¬ s.HasBrokenFile := by
        intro hbroken
        rw [hbroken] at hfile
        contradiction
      cases hsources : ofSources s file env with
      | error fault =>
        rw [hsources] at h
        contradiction
      | ok c' =>
        rw [hsources] at h
        obtain ⟨rfl, rfl⟩ := Prod.mk.inj (Except.ok.inj h)
        exact .inr ⟨hbroken, rfl, file, hsources⟩

end RequiredFields.Configuration
