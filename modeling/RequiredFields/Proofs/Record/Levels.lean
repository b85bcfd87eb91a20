import RequiredFields.Proofs.Record.Occurrences

/-!
# Levels

The levels of a forest are those of its deepest field, the top level being the first. They bound the
lengths of the paths that lead to its fields (`levelsOf_le_iff`).
-/

namespace RequiredFields

mutual

/-- The levels of a field and of the fields below it, its own being the first. -/
def Field.levels : Field → Nat
  | ⟨_, _, _, children⟩ => levelsOf children + 1

/-- The levels of a forest. -/
def levelsOf : List Field → Nat
  | [] => 0
  | f :: fields => max f.levels (levelsOf fields)

end

/-- The levels of a record. -/
def Record.levels (r : Record) : Nat :=
  levelsOf r.fields

/-- A field is one level above those below it. -/
theorem Field.levels_eq (f : Field) : f.levels = levelsOf f.children + 1 := by
  cases f
  rw [Field.levels]

/-- Without fields there are no levels. -/
theorem levelsOf_nil : levelsOf [] = 0 := by
  rw [levelsOf]

/-- A field without fields below it has one level. -/
theorem Field.levels_of_leaf {f : Field} (h : f.children = []) : f.levels = 1 := by
  rw [f.levels_eq, h, levelsOf_nil]

/-- A forest has as many levels as its deepest tree. -/
theorem levelsOf_le_iff_forall {n : Nat} {forest : List Field} :
    levelsOf forest ≤ n ↔ ∀ f ∈ forest, f.levels ≤ n := by
  induction forest with
  | nil => exact iff_of_true (levelsOf_nil ▸ n.zero_le) (List.forall_mem_nil _)
  | cons f fields ih => rw [levelsOf, Nat.max_le, ih, List.forall_mem_cons]

/-- A forest with children has at least one level. -/
theorem levelsOf_cons_pos (f : Field) (fields : List Field) : 0 < levelsOf (f :: fields) := by
  rw [levelsOf, f.levels_eq]
  omega

/-- The paths from a field down are bounded by those in the forest of its children: the only one
besides them is that of no steps, which stays at the field. -/
theorem length_below?_le_iff {n : Nat} {g : Field} :
    (∀ path f, g.below? path = some f → path.length ≤ n) ↔
      ∀ path f, fieldAt? g.children path = some f → path.length ≤ n := by
  refine forall_congr' fun path => ?_
  cases path with
  | nil => exact iff_of_true (fun _ _ => Nat.zero_le n) fun _ _ => Nat.zero_le n
  | cons i path => exact Iff.rfl

/-- A path in a forest is one step longer than its rest, which leads down from one of the trees. -/
theorem length_fieldAt?_le_succ_iff {n : Nat} {forest : List Field} :
    (∀ path f, fieldAt? forest path = some f → path.length ≤ n + 1) ↔
      ∀ g ∈ forest, ∀ path f, g.below? path = some f → path.length ≤ n := by
  constructor
  · intro h g hg path f hf
    obtain ⟨i, hi⟩ := List.mem_iff_getElem?.1 hg
    have hlength := h (i :: path) f (by rw [fieldAt?_cons, hi]; exact hf)
    exact Nat.le_of_succ_le_succ hlength
  · intro h path f hf
    cases path with
    | nil => exact Nat.zero_le _
    | cons i path =>
      rw [fieldAt?_cons] at hf
      obtain ⟨g, hg, hf⟩ := Option.bind_eq_some_iff.1 hf
      exact Nat.succ_le_succ (h g (List.mem_of_getElem? hg) path f hf)

/-- The levels of a forest bound the paths in it: a field at the end of a path of some length is at
that level. -/
theorem levelsOf_le_iff {n : Nat} {forest : List Field} :
    levelsOf forest ≤ n ↔ ∀ path f, fieldAt? forest path = some f → path.length ≤ n := by
  -- One level is taken off at a time, as is one step of each path.
  induction n generalizing forest with
  | zero =>
    cases forest with
    | nil =>
      refine iff_of_true (Nat.le_of_eq levelsOf_nil) fun path f hf => ?_
      cases path with
      | nil => exact Nat.le_refl 0
      | cons i path =>
        rw [fieldAt?_cons] at hf
        contradiction
    | cons f fields =>
      have hpos := levelsOf_cons_pos f fields
      refine iff_of_false (by omega) fun h => ?_
      have hlength := h [0] f rfl
      contradiction
  | succ n ih =>
    rw [levelsOf_le_iff_forall, length_fieldAt?_le_succ_iff]
    refine forall₂_congr fun g _ => ?_
    rw [g.levels_eq, Nat.add_le_add_iff_right, ih, length_below?_le_iff]

/-- A field with `n` fields below it, each the only one below the one before. -/
def Field.chain : Nat → Field
  | 0 => ⟨"", none, none, []⟩
  | n + 1 => ⟨"", none, none, [chain n]⟩

/-- Each field of a chain is a level of its own. -/
theorem Field.levels_chain (n : Nat) : (chain n).levels = n + 1 := by
  induction n with
  | zero => rw [chain, levels, levelsOf]
  | succ n ih => rw [chain, levels, levelsOf, levelsOf, ih, Nat.max_zero]

end RequiredFields
