import RequiredFields.Configuration.Key

/-!
# What a source changes in a tree

A tree is read along a path of keys (`Tree.at?`). A scalar can always be placed at some keys, and is
read there afterwards (`exists_place?`); every path that parts from these keys reads what it read
before (`at?_of_parts`). So what is read along a path behind a whole source is what its entries say
that have to do with the path, if they agree (`at?_of_layer?`).
-/

namespace RequiredFields.Configuration

/-- A replaced value is found under its key. -/
theorem lookup_replaceEntry_self (key : String) (value : Tree) (entries : List (String × Tree)) :
    (replaceEntry key value entries).lookup key = some value := by
  induction entries with
  | nil => simp [replaceEntry]
  | cons entry entries ih =>
    obtain ⟨k, v⟩ := entry
    by_cases hk : k = key
    · simp [replaceEntry, hk]
    · rw [replaceEntry, if_neg hk, List.lookup_cons, beq_eq_false_iff_ne.2 (Ne.symm hk), ih]

/-- Under other keys nothing changes. -/
theorem lookup_replaceEntry_of_ne {key k : String} (h : k ≠ key) (value : Tree)
    (entries : List (String × Tree)) :
    (replaceEntry key value entries).lookup k = entries.lookup k := by
  induction entries with
  | nil => simp [replaceEntry, List.lookup_cons, beq_eq_false_iff_ne.2 h]
  | cons entry entries ih =>
    obtain ⟨k', v⟩ := entry
    by_cases hk : k' = key
    · rw [replaceEntry, if_pos hk, List.lookup_cons, List.lookup_cons, hk,
        beq_eq_false_iff_ne.2 h]
    · rw [replaceEntry, if_neg hk, List.lookup_cons, List.lookup_cons, ih]

namespace Tree

/-- The value that a path of keys leads to. -/
def at? (t : Tree) : List String → Option Tree
  | [] => some t
  | name :: names => (t.entries.lookup name).bind fun child => child.at? names

/-- A scalar. -/
def IsScalar : Tree → Prop
  | boolean _ | integer _ | float _ | text _ => True
  | _ => False

/-- A scalar replaces the value of its key. -/
theorem lay_of_isScalar {value : Tree} (h : value.IsScalar) (key : String) (t : Tree) :
    lay key t value = table (replaceEntry (lowerCase key) value t.entries) := by
  cases value with
  | boolean | integer | float | text => rw [lay]
  | nothing | list | table => contradiction

/-- A scalar that is placed behind a key changes the value of that key alone. -/
theorem place?_child {value : Tree} (h : value.IsScalar) (name : String) (steps : List Step)
    (t : Tree) :
    place? value (.child name :: steps) t =
      (place? value steps ((t.entries.lookup (lowerCase name)).getD nothing)).map fun new =>
        table (replaceEntry (lowerCase name) new t.entries) := by
  -- A last step lays the value over the old one, which for a scalar replaces it.
  cases steps with
  | nil => exact congrArg some (lay_of_isScalar h name t)
  | cons step steps =>
    rw [place?, bind_pure_comp]
    · rfl
    · exact List.cons_ne_nil step steps

/-- A scalar can be placed at some keys, and is read back along them. -/
theorem exists_place? {value : Tree} (h : value.IsScalar) (names : List String) (t : Tree) :
    ∃ t', place? value (names.map .child) t = some t' ∧
      t'.at? (names.map lowerCase) = some value := by
  induction names generalizing t with
  | nil => exact ⟨value, rfl, rfl⟩
  | cons name names ih =>
    obtain ⟨new, hplace, hat⟩ := ih ((t.entries.lookup (lowerCase name)).getD nothing)
    refine ⟨table (replaceEntry (lowerCase name) new t.entries), ?_, ?_⟩
    · rw [List.map_cons, place?_child h, hplace, Option.map_some]
    · rw [List.map_cons, at?, entries, lookup_replaceEntry_self, Option.bind_some, hat]

/-- Steps that do not lead along a path: at some point they enter another key. -/
inductive Parts : List Step → List String → Prop where
  /-- They enter another key at once. -/
  | here {name key : String} (hkey : key ≠ lowerCase name) (steps : List Step)
    (names : List String) : Parts (.child name :: steps) (key :: names)
  /-- They enter the same key, and another one later. -/
  | there {name key : String} {steps : List Step} {names : List String}
    (hkey : key = lowerCase name) (h : Parts steps names) :
    Parts (.child name :: steps) (key :: names)

/-- Whether steps lead along a path is found out key by key. -/
instance decidableParts : ∀ steps path, Decidable (Parts steps path)
  | .child name :: steps, key :: names =>
    if hkey : key = lowerCase name then
      have := decidableParts steps names
      decidable_of_iff (Parts steps names) ⟨.there hkey, fun h => by
        cases h with
        | here hne => exact absurd hkey hne
        | there _ h => exact h⟩
    else .isTrue (.here hkey steps names)
  | [], _ => .isFalse (by rintro ⟨⟩)
  | .item _ :: _, _ => .isFalse (by rintro ⟨⟩)
  | .child _ :: _, [] => .isFalse (by rintro ⟨⟩)

/-- Steps lead along the path of their own keys. -/
theorem not_parts_map_child (names : List String) :
    ¬ Parts (names.map .child) (names.map lowerCase) := by
  induction names with
  | nil => rintro ⟨⟩
  | cons name names ih =>
    rintro (⟨hkey, -, -⟩ | ⟨-, h⟩)
    · exact hkey rfl
    · exact ih h

/-- A path that the steps do not lead along reads what it read before. -/
theorem at?_of_parts {value : Tree} (hvalue : value.IsScalar) {steps : List Step}
    {path : List String} (h : Parts steps path) {t t' : Tree}
    (hplace : place? value steps t = some t') : t'.at? path = t.at? path := by
  -- The induction is on where the steps part from the path.
  induction h generalizing t t' with
  | here hkey steps names =>
    rw [place?_child hvalue] at hplace
    obtain ⟨new, -, rfl⟩ := Option.map_eq_some_iff.1 hplace
    rw [at?, at?, entries, lookup_replaceEntry_of_ne hkey]
  | @there name key steps names hkey h ih =>
    rw [place?_child hvalue] at hplace
    obtain ⟨new, hnew, rfl⟩ := Option.map_eq_some_iff.1 hplace
    rw [hkey, at?, at?, entries, lookup_replaceEntry_self, Option.bind_some, ih hnew]
    cases t.entries.lookup (lowerCase name) with
    | some child => rfl
    | none =>
      -- The rest of the path is not empty, so nothing is read along it where nothing was.
      cases h with
      | here | there => rfl

/-- What is read along a path behind a whole source, if one of its entries puts it there, and each
of the others puts the same or leaves the path alone. -/
theorem at?_of_layer? {source : List (String × Tree)} {path : List String} {value : Tree}
    (hset : ∃ x ∈ source, ∀ t t', place? x.2 (stepsOfKey x.1) t = some t' →
      t'.at? path = some value)
    (hkeep : ∀ x ∈ source,
      (∀ t t', place? x.2 (stepsOfKey x.1) t = some t' → t'.at? path = some value) ∨
      ∀ t t', place? x.2 (stepsOfKey x.1) t = some t' → t'.at? path = t.at? path)
    {base t : Tree} (h : base.layer? source = some t) : t.at? path = some value := by
  -- Behind the entry that puts the value there, every entry keeps it.
  have hmore : ∀ (more : List (String × Tree)) (t t' : Tree), (∀ x ∈ more, x ∈ source) →
      t.at? path = some value → t.layer? more = some t' → t'.at? path = some value := by
    intro more
    induction more with
    | nil =>
      intro t t' _ ht h
      rwa [← Option.some.inj h]
    | cons x more ih =>
      intro t t' hsub ht h
      obtain ⟨hx, hsub⟩ := List.forall_mem_cons.1 hsub
      obtain ⟨next, hnext, h⟩ := Option.bind_eq_some_iff.1 h
      refine ih next t' hsub ?_ h
      rcases hkeep x hx with hx | hx
      · exact hx t next hnext
      · rw [hx t next hnext, ht]
  obtain ⟨x, hx, hset⟩ := hset
  obtain ⟨before, after, rfl⟩ := List.append_of_mem hx
  rw [layer?, List.foldlM_append] at h
  obtain ⟨before', -, h⟩ := Option.bind_eq_some_iff.1 h
  obtain ⟨next, hnext, h⟩ := Option.bind_eq_some_iff.1 h
  exact hmore after next t (fun y hy => by simp [hy]) (hset before' next hnext) h

end Tree

end RequiredFields.Configuration
