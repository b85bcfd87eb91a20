import RequiredFields.Proofs.Record.Occurrences

/-!
# Rows

The rows of a forest are its occurrences without the fields below them: an edit deep in a forest
changes all fields above the place of the edit, but not their rows. An edit of one list of the
forest, the top level or the children of a field, changes the rows of that list and leaves those
before and behind them as they are (`rows_editList`).
-/

namespace RequiredFields

/-- The field without the fields below it: its name, value and description. -/
def Field.alone (f : Field) : Field :=
  { f with children := [] }

/-- All fields of a forest alone, with their paths, where the first tree of the forest has index
`i`. -/
def rowsFrom (i : Nat) (forest : List Field) : List (Path × Field) :=
  (occurrencesFrom i forest).map fun o => (o.1, o.2.alone)

/-- All fields of a forest alone, with their paths, each before those below it. -/
def rows (forest : List Field) : List (Path × Field) :=
  rowsFrom 0 forest

/-- Without their paths, the rows of a forest are its fields alone, whichever index it starts at. -/
theorem map_snd_rowsFrom (i : Nat) (forest : List Field) :
    (rowsFrom i forest).map (·.2) = (flattenAll forest).map Field.alone := by
  rw [← map_snd_occurrencesFrom i forest, rowsFrom, List.map_map, List.map_map]
  rfl

/-- The rows of a forest have the paths of its occurrences. -/
theorem map_fst_rows (forest : List Field) :
    (rows forest).map (·.1) = (occurrences forest).map (·.1) :=
  List.map_map

/-- Without their paths, the rows of a forest are its fields alone. -/
theorem map_snd_rows (forest : List Field) :
    (rows forest).map (·.2) = (flattenAll forest).map Field.alone :=
  map_snd_rowsFrom 0 forest

/-- The rows of a tree are its root and the rows of its children. -/
theorem rowsFrom_cons (i : Nat) (f : Field) (fields : List Field) :
    rowsFrom i (f :: fields) =
      ([i], f.alone) :: ((rows f.children).map fun x => (i :: x.1, x.2)) ++
        rowsFrom (i + 1) fields := by
  cases f
  simp only [rowsFrom, rows, occurrencesFrom, Field.occurrences, List.map_append, List.map_map,
    List.map_cons]
  rfl

/-- The rows of two forests side by side. -/
theorem rowsFrom_append (i : Nat) (a b : List Field) :
    rowsFrom i (a ++ b) = rowsFrom i a ++ rowsFrom (i + a.length) b := by
  induction a generalizing i with
  | nil => rfl
  | cons f a ih =>
    rw [List.cons_append, rowsFrom_cons, rowsFrom_cons, ih, List.append_assoc, List.length_cons,
      Nat.add_assoc, Nat.add_comm 1]

/-- The path of a row starts with the index of its tree. -/
theorem path_of_mem_rowsFrom {i : Nat} {forest : List Field} {x : Path × Field}
    (h : x ∈ rowsFrom i forest) : ∃ j < forest.length, ∃ rest, x.1 = (i + j) :: rest := by
  obtain ⟨⟨path, f⟩, ho, rfl⟩ := List.mem_map.1 h
  obtain ⟨j, rest, rfl, hf⟩ := (mem_occurrencesFrom i forest).1 ho
  rw [fieldAt?_cons] at hf
  obtain ⟨g, hg, -⟩ := Option.bind_eq_some_iff.1 hf
  exact ⟨j, (List.getElem?_eq_some_iff.1 hg).1, rest, rfl⟩

/-- The list of fields that a path leads to: the top level for the empty path, the children of the
field at the path otherwise. -/
def listAt? (forest : List Field) : Path → Option (List Field)
  | [] => some forest
  | i :: path => (forest[i]?).bind fun f => listAt? f.children path

/-- The edit of a list below the first level is an edit in the tree with the first index. -/
theorem editList_cons {forest : List Field} {i : Nat} {f : Field} (h : forest[i]? = some f)
    (edit : List Field → List Field) (path : Path) :
    editList edit forest (i :: path) =
      forest.take i ++ { f with children := editList edit f.children path } ::
        forest.drop (i + 1) := by
  obtain ⟨hi, rfl⟩ := List.getElem?_eq_some_iff.1 h
  exact List.modify_eq_take_cons_drop hi

/-- The rows of a forest with another tree at an index. -/
theorem rows_take_cons_drop {forest : List Field} {i : Nat} (hi : i < forest.length) (f : Field) :
    rows (forest.take i ++ f :: forest.drop (i + 1)) =
      rowsFrom 0 (forest.take i) ++
        (([i], f.alone) :: ((rows f.children).map fun x => (i :: x.1, x.2)) ++
          rowsFrom (i + 1) (forest.drop (i + 1))) := by
  rw [rows, rowsFrom_append, Nat.zero_add, List.length_take_of_le (Nat.le_of_lt hi), rowsFrom_cons]

/-- The rows of a forest, seen from one of its trees. -/
theorem rows_of_getElem? {forest : List Field} {i : Nat} {f : Field} (h : forest[i]? = some f) :
    rows forest = rowsFrom 0 (forest.take i) ++
      (([i], f.alone) :: ((rows f.children).map fun x => (i :: x.1, x.2)) ++
        rowsFrom (i + 1) (forest.drop (i + 1))) := by
  obtain ⟨hi, rfl⟩ := List.getElem?_eq_some_iff.1 h
  rw [← rows_take_cons_drop hi, ← List.drop_eq_getElem_cons hi, List.take_append_drop]

/-- The rows of the trees before a tree have smaller paths than the rows in it. -/
theorem lt_of_mem_rowsFrom_take {forest : List Field} {i : Nat} {x : Path × Field}
    (h : x ∈ rowsFrom 0 (forest.take i)) (path : Path) : x.1 < i :: path := by
  obtain ⟨j, hj, rest, hx⟩ := path_of_mem_rowsFrom h
  have hle := List.length_take_le i forest
  rw [hx]
  exact List.cons_lt_cons_iff.2 (.inl (by omega))

/-- The rows of the trees behind a tree have greater paths than the rows in it. -/
theorem lt_of_mem_rowsFrom_succ {forest : List Field} {i : Nat} {x : Path × Field}
    (h : x ∈ rowsFrom (i + 1) forest) (path : Path) : i :: path < x.1 := by
  obtain ⟨j, -, rest, hx⟩ := path_of_mem_rowsFrom h
  rw [hx]
  exact List.cons_lt_cons_iff.2 (.inl (by omega))

/-- An edit of the list that a path leads to changes the rows of this list alone. The rows before
them have smaller paths and the rows behind them greater ones, whichever fields the list has. -/
theorem rows_editList {forest siblings : List Field} {path : Path}
    (h : listAt? forest path = some siblings) :
    ∃ before after,
      (∀ x ∈ before, ∀ i rest, x.1 < path ++ i :: rest) ∧
      (∀ x ∈ after, ∀ rest, path ++ rest < x.1) ∧
      rows forest = before ++ (rows siblings).map (fun x => (path ++ x.1, x.2)) ++ after ∧
      ∀ edit, rows (editList edit forest path) =
        before ++ (rows (edit siblings)).map (fun x => (path ++ x.1, x.2)) ++ after := by
  induction path generalizing forest with
  | nil =>
    obtain rfl := Option.some.inj h
    refine ⟨[], [], by simp, by simp, ?_, fun edit => ?_⟩ <;> simp [editList]
  | cons j path ih =>
    obtain ⟨f, hf, hsiblings⟩ := Option.bind_eq_some_iff.1 h
    obtain ⟨before, after, hbefore, hafter, hrows, hedit⟩ := ih hsiblings
    obtain ⟨hj, -⟩ := List.getElem?_eq_some_iff.1 hf
    -- The trees before the one with index `j` and the root of this one come before the rows of its
    -- children, the trees behind it after them.
    refine ⟨rowsFrom 0 (forest.take j) ++ ([j], f.alone) :: before.map (fun x => (j :: x.1, x.2)),
      after.map (fun x => (j :: x.1, x.2)) ++ rowsFrom (j + 1) (forest.drop (j + 1)),
      ?_, ?_, ?_, ?_⟩
    · intro x hx i rest
      rcases List.mem_append.1 hx with hx | hx
      · exact lt_of_mem_rowsFrom_take hx _
      · rcases List.mem_cons.1 hx with rfl | hx
        · refine List.cons_lt_cons_iff.2 (.inr ⟨rfl, ?_⟩)
          cases path <;> exact List.nil_lt_cons _ _
        · obtain ⟨y, hy, rfl⟩ := List.mem_map.1 hx
          exact List.cons_lt_cons_iff.2 (.inr ⟨rfl, hbefore y hy i rest⟩)
    · intro x hx rest
      rcases List.mem_append.1 hx with hx | hx
      · obtain ⟨y, hy, rfl⟩ := List.mem_map.1 hx
        exact List.cons_lt_cons_iff.2 (.inr ⟨rfl, hafter y hy rest⟩)
      · exact lt_of_mem_rowsFrom_succ hx _
    · rw [rows_of_getElem? hf, hrows]
      simp
    · intro edit
      rw [editList_cons hf, rows_take_cons_drop hj, hedit]
      simp [Field.alone]

/-- A path leads to a field if all of it but the last index leads to the list of this field. -/
theorem fieldAt?_concat (forest : List Field) (path : Path) (i : Nat) :
    fieldAt? forest (path ++ [i]) = (listAt? forest path).bind (·[i]?) := by
  induction path generalizing forest with
  | nil => rfl
  | cons j path ih =>
    rw [List.cons_append, fieldAt?_cons, listAt?]
    cases forest[j]? with
    | none => rfl
    | some f =>
      rw [Option.bind_some, Option.bind_some, ← ih]
      cases path <;> rfl

/-- A path to a field leads to a list and then to a member of it. -/
theorem exists_concat_of_fieldAt? {forest : List Field} {path : Path} {g : Field}
    (h : fieldAt? forest path = some g) : ∃ parent i siblings, path = parent ++ [i] ∧
      listAt? forest parent = some siblings ∧ siblings[i]? = some g := by
  rcases List.eq_nil_or_concat' path with rfl | ⟨parent, i, rfl⟩
  · contradiction
  · rw [fieldAt?_concat] at h
    obtain ⟨siblings, hsiblings, hg⟩ := Option.bind_eq_some_iff.1 h
    exact ⟨parent, i, siblings, rfl, hsiblings, hg⟩

end RequiredFields
