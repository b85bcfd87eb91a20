import Mathlib.Data.List.Induction
import RequiredFields.Configuration.Assignments
import RequiredFields.Proofs.Configuration.Tree
import RequiredFields.Proofs.Text.Encoding

/-!
# Variables and the file of assignments

A file of assignments adds variables and changes none: a variable that is set keeps its value
(`Sets.of_assign?`). What the variables say has an entry for each key that one of them sets, and no
others (`exists_mem_sourceOfEnvironment`, `exists_of_mem_sourceOfEnvironment`).
-/

namespace RequiredFields.Configuration

/-- The environment sets the variable of that name, to that value alone. -/
def Sets (env : Environment) (name value : String) : Prop :=
  ∀ v, (name, v) ∈ env ↔ v = value

/-! ## Assignments -/

/-- Variables that are set stay. -/
theorem subset_of_assignAll? {env earlier env' : Environment} {lines : List (Option (List Char))}
    (h : assignAll? env earlier lines = some env') : env ⊆ env' := by
  induction lines generalizing env earlier with
  | nil =>
    obtain rfl := Option.some.inj h
    exact List.Subset.refl env
  | cons line lines ih =>
    cases line with
    | none =>
      obtain rfl := Option.some.inj h
      exact List.Subset.refl env
    | some text =>
      -- Reading ends at a broken line; any other adds one variable at most, behind those there.
      simp only [assignAll?] at h
      split at h
      · obtain rfl := Option.some.inj h
        exact List.Subset.refl env
      · exact ih h
      · split_ifs at h
        · exact ih h
        · exact List.Subset.trans (List.subset_append_left _ _) (ih h)

/-- A variable that is added was not set. -/
theorem mem_of_assignAll? {env earlier env' : Environment} {lines : List (Option (List Char))}
    (h : assignAll? env earlier lines = some env') {x : String × String} (hx : x ∈ env') :
    x ∈ env ∨ env.lookup x.1 = none := by
  induction lines generalizing env earlier with
  | nil =>
    obtain rfl := Option.some.inj h
    exact .inl hx
  | cons line lines ih =>
    cases line with
    | none =>
      obtain rfl := Option.some.inj h
      exact .inl hx
    | some text =>
      simp only [assignAll?] at h
      split at h
      · obtain rfl := Option.some.inj h
        exact .inl hx
      · exact ih h
      · next name value _ =>
        split_ifs at h with hset
        · exact ih h
        · -- The induction speaks of the variables with the new one among them.
          obtain hx | hx := ih h
          · obtain hx | hx := List.mem_append.1 hx
            · exact .inl hx
            · rw [List.mem_singleton.1 hx]
              exact .inr (Option.not_isSome_iff_eq_none.1 hset)
          · rw [List.lookup_append, Option.or_eq_none_iff] at hx
            exact .inr hx.1

/-- A file of assignments does not change a variable that is set. -/
theorem Sets.of_assign? {env env' : Environment} {name value : String} (h : Sets env name value)
    {content : Octets} (hassign : assign? env content = some env') : Sets env' name value := by
  have hset : (name, value) ∈ env := (h value).2 rfl
  intro v
  constructor
  · intro hv
    obtain hv | hv := mem_of_assignAll? hassign hv
    · exact (h v).1 hv
    · have hne := List.lookup_eq_none_iff.1 hv (name, value) hset
      simp at hne
  · intro hv
    exact subset_of_assignAll? hassign ((h v).2 hv)

/-- A file of one line that assigns to a variable that is not set adds this variable. The line is
complete at its end, where nothing is open. -/
theorem assign?_of_line {env : Environment} {content : Octets} {line name value : String}
    (hlines : rawLines content.withoutMark = [.ofText line])
    (hcomment : (Text.trimStart line.toList).head? ≠ some '#')
    (hscan : LineState.scan .plain line.toList = (.plain, none))
    (hread : readLine (fun name => (env.lookup name).getD "") (withoutBreak line.toList) =
      .assignment name value)
    (hnew : env.lookup name = none) (hvalue : '\x00' ∉ value.toList) :
    assign? env content = some (env ++ [(name, value)]) := by
  have hcomplete : completeLines [] .plain [.ofText line] = [some (withoutBreak line.toList)] := by
    simp [completeLines, hcomment, hscan]
  simp [assign?, hlines, hcomplete, assignAll?, hread, hnew, hvalue]

/-! ## Entries -/

/-- A replaced value is among the entries. -/
theorem mem_replaceEntry_self (key : String) (value : Tree) (entries : List (String × Tree)) :
    (key, value) ∈ replaceEntry key value entries := by
  induction entries with
  | nil => exact List.mem_singleton.2 rfl
  | cons entry entries ih =>
    rw [replaceEntry]
    split
    · next hk => exact hk ▸ List.mem_cons_self
    · exact List.mem_cons_of_mem _ ih

/-- Only the replaced value is new among the entries. -/
theorem mem_of_mem_replaceEntry {key : String} {value : Tree} {entries : List (String × Tree)}
    {x : String × Tree} (h : x ∈ replaceEntry key value entries) :
    x = (key, value) ∨ x ∈ entries := by
  induction entries with
  | nil => exact .inl (List.mem_singleton.1 h)
  | cons entry entries ih =>
    rw [replaceEntry] at h
    split at h
    · next hk =>
      obtain rfl | hx := List.mem_cons.1 h
      · exact .inl (hk ▸ rfl)
      · exact .inr (List.mem_cons_of_mem _ hx)
    · obtain rfl | hx := List.mem_cons.1 h
      · exact .inr List.mem_cons_self
      · exact (ih hx).imp_right (List.mem_cons_of_mem _)

/-- Each key of the entries stays one. -/
theorem exists_mem_replaceEntry (key : String) (value : Tree) {entries : List (String × Tree)}
    {k : String} {v : Tree} (h : (k, v) ∈ entries) :
    ∃ v', (k, v') ∈ replaceEntry key value entries := by
  induction entries with
  | nil => contradiction
  | cons entry entries ih =>
    rw [replaceEntry]
    obtain rfl | h := List.mem_cons.1 h
    · split
      · exact ⟨value, List.mem_cons_self⟩
      · exact ⟨v, List.mem_cons_self⟩
    · split
      · exact ⟨v, List.mem_cons_of_mem _ h⟩
      · exact (ih h).imp fun v' => List.mem_cons_of_mem _

/-- What the variables say with one more variable, which sets a key. -/
theorem sourceOfEnvironment_append_key {name key : String} (h : keyOfVariable? name = some key)
    (env : Environment) (value : String) :
    sourceOfEnvironment (env ++ [(name, value)]) =
      replaceEntry key (valueOfVariable value) (sourceOfEnvironment env) := by
  simp only [sourceOfEnvironment, List.foldl_append, List.foldl_cons, List.foldl_nil, h]

/-- What the variables say with one more variable, which sets no key. -/
theorem sourceOfEnvironment_append_none {name : String} (h : keyOfVariable? name = none)
    (env : Environment) (value : String) :
    sourceOfEnvironment (env ++ [(name, value)]) = sourceOfEnvironment env := by
  simp only [sourceOfEnvironment, List.foldl_append, List.foldl_cons, List.foldl_nil, h]

/-- Each entry that the variables make is made by one of them. -/
theorem exists_of_mem_sourceOfEnvironment {env : Environment} {entry : String × Tree}
    (h : entry ∈ sourceOfEnvironment env) :
    ∃ x ∈ env, keyOfVariable? x.1 = some entry.1 ∧ entry.2 = valueOfVariable x.2 := by
  induction env using List.reverseRecOn with
  | nil => exact absurd h List.not_mem_nil
  | append_singleton env x ih =>
    obtain ⟨name, value⟩ := x
    have hmore : (∃ x ∈ env, keyOfVariable? x.1 = some entry.1 ∧ entry.2 = valueOfVariable x.2) →
        ∃ x ∈ env ++ [(name, value)],
          keyOfVariable? x.1 = some entry.1 ∧ entry.2 = valueOfVariable x.2 := by
      rintro ⟨x, hx, hentry⟩
      exact ⟨x, List.mem_append_left _ hx, hentry⟩
    -- The last variable makes its own entry, in place of an earlier one, and keeps the others.
    cases hkey : keyOfVariable? name with
    | none =>
      rw [sourceOfEnvironment_append_none hkey] at h
      exact hmore (ih h)
    | some key =>
      rw [sourceOfEnvironment_append_key hkey] at h
      obtain rfl | h := mem_of_mem_replaceEntry h
      · exact ⟨(name, value), List.mem_append_right env List.mem_cons_self, hkey, by dsimp only⟩
      · exact hmore (ih h)

/-- A variable that sets a key makes an entry for it, if not a later one does. -/
theorem exists_mem_sourceOfEnvironment {env : Environment} {x : String × String} (hx : x ∈ env)
    {key : String} (hkey : keyOfVariable? x.1 = some key) :
    ∃ value, (key, value) ∈ sourceOfEnvironment env := by
  induction env using List.reverseRecOn with
  | nil => exact absurd hx List.not_mem_nil
  | append_singleton env y ih =>
    obtain ⟨name, value⟩ := y
    obtain hx | hx := List.mem_append.1 hx
    · obtain ⟨v, hv⟩ := ih hx
      cases hname : keyOfVariable? name with
      | none => exact ⟨v, by rwa [sourceOfEnvironment_append_none hname]⟩
      | some other =>
        rw [sourceOfEnvironment_append_key hname]
        exact exists_mem_replaceEntry other _ hv
    · rw [List.mem_singleton.1 hx] at hkey
      rw [sourceOfEnvironment_append_key hkey]
      exact ⟨_, mem_replaceEntry_self key _ _⟩

end RequiredFields.Configuration
