import Mathlib.Data.List.Basic
import RequiredFields.Record.Path

/-!
# Occurrences

Two fields of a record may be equal, so what is said about one field of a record is said about its
occurrence: the field together with its path. `occurrences` walks a forest in pre-order, each field
before its own. The walk visits exactly the fields that paths lead to (`mem_occurrences`), in
strictly rising order of their paths (`occurrences_sorted`), where a path comes before its
extensions, so it visits none of them twice (`nodup_occurrences`). Without the paths it is
`flattenAll` (`map_snd_occurrences`).
-/

namespace RequiredFields

mutual

/-- A field and all fields below it, each with the path that leads from the field to it. -/
def Field.occurrences : Field → List (Path × Field)
  | ⟨name, value, description, children⟩ =>
    ([], ⟨name, value, description, children⟩) :: occurrencesFrom 0 children

/-- All fields of a forest with their paths, where the first tree of the forest has index `i`. -/
def occurrencesFrom (i : Nat) : List Field → List (Path × Field)
  | [] => []
  | f :: fields =>
    f.occurrences.map (fun o => (i :: o.1, o.2)) ++ occurrencesFrom (i + 1) fields

end

/-- All fields of a forest with their paths, each before its own. -/
def occurrences (forest : List Field) : List (Path × Field) :=
  occurrencesFrom 0 forest

mutual

/-- Without their paths, the occurrences below a field are the fields below it. -/
theorem Field.map_snd_occurrences : ∀ f : Field, f.occurrences.map (·.2) = f.flatten
  | ⟨name, value, description, children⟩ => by
    rw [Field.occurrences, Field.flatten, List.map_cons, map_snd_occurrencesFrom 0 children]

/-- Without their paths, the occurrences in a forest are its fields. -/
theorem map_snd_occurrencesFrom (i : Nat) :
    ∀ forest : List Field, (occurrencesFrom i forest).map (·.2) = flattenAll forest
  | [] => by rw [occurrencesFrom, flattenAll, List.map_nil]
  | f :: fields => by
    rw [occurrencesFrom, flattenAll, List.map_append, List.map_map, ← f.map_snd_occurrences,
      map_snd_occurrencesFrom (i + 1) fields]
    rfl

end

/-- Without their paths, the occurrences in a forest are its fields. -/
theorem map_snd_occurrences (forest : List Field) :
    (occurrences forest).map (·.2) = flattenAll forest :=
  map_snd_occurrencesFrom 0 forest

/-- The field that a path leads to from a field. -/
def Field.below? (f : Field) : Path → Option Field
  | [] => some f
  | i :: path => fieldAt? f.children (i :: path)

/-- A path in a forest leads to one of its trees, and on from its root. -/
theorem fieldAt?_cons (forest : List Field) (i : Nat) (path : Path) :
    fieldAt? forest (i :: path) = (forest[i]?).bind (·.below? path) := by
  cases path with
  | nil =>
    rw [fieldAt?]
    cases forest[i]? <;> rfl
  | cons j path =>
    rw [fieldAt?]
    · rfl
    · simp

/-- A path that starts with 0 leads into the first tree. -/
theorem fieldAt?_zero (f : Field) (fields : List Field) (path : Path) :
    fieldAt? (f :: fields) (0 :: path) = f.below? path := by
  rw [fieldAt?_cons]
  rfl

/-- A path that starts with another index leads into the other trees. -/
theorem fieldAt?_succ (f : Field) (fields : List Field) (i : Nat) (path : Path) :
    fieldAt? (f :: fields) ((i + 1) :: path) = fieldAt? fields (i :: path) := by
  rw [fieldAt?_cons, fieldAt?_cons, List.getElem?_cons_succ]

mutual

/-- The occurrences below a field are those that paths lead to from it. -/
theorem Field.mem_occurrences {path : Path} {g : Field} :
    ∀ f : Field, (path, g) ∈ f.occurrences ↔ f.below? path = some g
  | ⟨name, value, description, children⟩ => by
    rw [Field.occurrences, List.mem_cons, mem_occurrencesFrom 0 children]
    cases path with
    | nil => simp [Field.below?, eq_comm]
    | cons i path => simp [Field.below?]

/-- The occurrences in a forest are those that paths lead to. -/
theorem mem_occurrencesFrom {path : Path} {g : Field} (i : Nat) : ∀ forest : List Field,
    (path, g) ∈ occurrencesFrom i forest ↔
      ∃ j rest, path = (i + j) :: rest ∧ fieldAt? forest (j :: rest) = some g
  | [] => by simp [occurrencesFrom, fieldAt?_cons]
  | f :: fields => by
    rw [occurrencesFrom, List.mem_append, mem_occurrencesFrom (i + 1) fields, List.mem_map]
    -- The path counts from the first tree that is left, so one index more there is one less here.
    constructor
    · rintro (⟨⟨rest, h⟩, hmem, heq⟩ | ⟨j, rest, rfl, h⟩)
      · obtain ⟨rfl, rfl⟩ := Prod.mk.inj heq
        refine ⟨0, rest, rfl, ?_⟩
        rw [fieldAt?_zero]
        exact (Field.mem_occurrences f).1 hmem
      · exact ⟨j + 1, rest, by rw [Nat.add_assoc, Nat.add_comm 1 j], by rw [fieldAt?_succ, h]⟩
    · rintro ⟨j, rest, rfl, h⟩
      cases j with
      | zero =>
        rw [fieldAt?_zero] at h
        exact .inl ⟨(rest, g), (Field.mem_occurrences f).2 h, rfl⟩
      | succ j =>
        rw [fieldAt?_succ] at h
        exact .inr ⟨j, rest, by rw [Nat.add_assoc, Nat.add_comm 1 j], h⟩

end

/-- The occurrences in a forest are its fields with the paths that lead to them. -/
theorem mem_occurrences {forest : List Field} {path : Path} {f : Field} :
    (path, f) ∈ occurrences forest ↔ fieldAt? forest path = some f := by
  rw [occurrences, mem_occurrencesFrom]
  cases path with
  | nil => simp [fieldAt?]
  | cons i path => simp

mutual

/-- Paths rise along the occurrences below a field. -/
theorem Field.occurrences_sorted : ∀ f : Field, f.occurrences.Pairwise fun a b => a.1 < b.1
  | ⟨name, value, description, children⟩ => by
    rw [Field.occurrences, List.pairwise_cons]
    refine ⟨?_, occurrencesFrom_sorted 0 children⟩
    rintro ⟨path, g⟩ h
    obtain ⟨j, rest, rfl, -⟩ := (mem_occurrencesFrom 0 children).1 h
    exact List.nil_lt_cons _ _

/-- Paths rise along the occurrences in a forest. -/
theorem occurrencesFrom_sorted (i : Nat) :
    ∀ forest : List Field, (occurrencesFrom i forest).Pairwise fun a b => a.1 < b.1
  | [] => by
    rw [occurrencesFrom]
    exact .nil
  | f :: fields => by
    rw [occurrencesFrom, List.pairwise_append, List.pairwise_map]
    refine ⟨?_, occurrencesFrom_sorted (i + 1) fields, ?_⟩
    · exact f.occurrences_sorted.imp fun h => List.cons_lt_cons_iff.2 (.inr ⟨rfl, h⟩)
    · -- The paths into the first tree start with `i`, the others with a greater index.
      intro a ha b hb
      obtain ⟨o, -, rfl⟩ := List.mem_map.1 ha
      obtain ⟨path, g⟩ := b
      obtain ⟨j, rest, rfl, -⟩ := (mem_occurrencesFrom (i + 1) fields).1 hb
      exact List.cons_lt_cons_iff.2 (.inl (by omega))

end

/-- The walk meets the paths of a forest in strictly rising order, a path before its extensions. -/
theorem occurrences_sorted (forest : List Field) :
    (occurrences forest).Pairwise fun a b => a.1 < b.1 :=
  occurrencesFrom_sorted 0 forest

/-- The walk meets every path once. -/
theorem nodup_occurrences (forest : List Field) : ((occurrences forest).map (·.1)).Nodup := by
  refine List.pairwise_map.2 ((occurrences_sorted forest).imp ?_)
  rintro a b h heq
  rw [heq] at h
  exact List.lt_irrefl _ h

end RequiredFields
