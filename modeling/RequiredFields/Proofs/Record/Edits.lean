import Mathlib.Data.List.InsertIdx
import RequiredFields.Proofs.Record.Rows

/-!
# Edits of a forest

What an edit does to the rows of a forest. An edit of a field that keeps its children replaces one
row (`rows_editField`), so another value in a field changes this value and nothing else
(`rows_setValue`). An inserted tree puts its rows between those before and those behind its place,
and only the paths of the latter change (`rows_insertField`, without the paths
`flattenAll_insertField`); removing it again restores the forest (`removeField_insertField`).
-/

namespace RequiredFields

/-- An edit of the field at a path that keeps its children replaces the row of this field. -/
theorem rows_editField {forest : List Field} {path : Path} {g : Field}
    (hg : fieldAt? forest path = some g) (edit : Field → Field)
    (hedit : (edit g).children = g.children) :
    ∃ before after, rows forest = before ++ (path, g.alone) :: after ∧
      rows (editField edit forest path) = before ++ (path, (edit g).alone) :: after := by
  obtain ⟨parent, i, siblings, rfl, hsiblings, hi⟩ := exists_concat_of_fieldAt? hg
  obtain ⟨before, after, -, -, hrows, hrows'⟩ := rows_editList hsiblings
  obtain ⟨hlt, hget⟩ := List.getElem?_eq_some_iff.1 hi
  have heditField : editField edit forest (parent ++ [i]) =
      editList (·.modify i edit) forest parent := by
    simp only [editField, List.getLast?_concat, List.dropLast_concat]
  -- The field is one row; those of its children follow, and the edit leaves them as they are.
  refine ⟨before ++ (rowsFrom 0 (siblings.take i)).map (fun x => (parent ++ x.1, x.2)),
    ((rows g.children).map fun x => (parent ++ i :: x.1, x.2)) ++
      (rowsFrom (i + 1) (siblings.drop (i + 1))).map (fun x => (parent ++ x.1, x.2)) ++ after,
    ?_, ?_⟩
  · rw [hrows, rows_of_getElem? hi]
    simp
  · rw [heditField, hrows', List.modify_eq_take_cons_drop hlt, hget, rows_take_cons_drop hlt, hedit]
    simp

/-- The occurrences before and behind the field at a path keep their rows in an edit of this field
that keeps its children. -/
theorem occurrences_editField {forest : List Field} {path : Path} {g : Field}
    (hg : fieldAt? forest path = some g) (edit : Field → Field)
    (hedit : (edit g).children = g.children) :
    ∃ before after, occurrences forest = before ++ (path, g) :: after ∧
      rows (editField edit forest path) =
        before.map (fun o => (o.1, o.2.alone)) ++
          (path, (edit g).alone) :: after.map (fun o => (o.1, o.2.alone)) := by
  obtain ⟨before, after, hrows, hrows'⟩ := rows_editField hg edit hedit
  obtain ⟨before, rest, hocc, rfl, hrest⟩ := List.map_eq_append_iff.1 hrows
  obtain ⟨⟨path', g'⟩, after, rfl, hrow, rfl⟩ := List.map_eq_cons_iff.1 hrest
  obtain rfl : path' = path := congrArg Prod.fst hrow
  have hmem : (path', g') ∈ occurrences forest := by
    rw [occurrences, hocc]
    simp
  obtain rfl := Option.some.inj ((mem_occurrences.1 hmem).symm.trans hg)
  exact ⟨before, after, hocc, hrows'⟩

/-- The occurrences besides one of them have other paths. -/
theorem path_ne_of_occurrences_eq {forest : List Field} {path : Path} {g : Field}
    {before after : List (Path × Field)}
    (h : occurrences forest = before ++ (path, g) :: after) :
    (∀ o ∈ before, o.1 ≠ path) ∧ ∀ o ∈ after, o.1 ≠ path := by
  have hnodup := nodup_occurrences forest
  rw [h, List.map_append, List.map_cons, List.nodup_append, List.nodup_cons] at hnodup
  obtain ⟨-, ⟨hafter, -⟩, hbefore⟩ := hnodup
  constructor
  · exact fun o ho => hbefore o.1 (List.mem_map_of_mem ho) path List.mem_cons_self
  · exact fun o ho hpath => hafter (List.mem_map.2 ⟨o, ho, hpath⟩)

/-- The forest with another value in the field at a path. -/
def setValue (value : Option String) (forest : List Field) (path : Path) : List Field :=
  editField (fun f => { f with value }) forest path

/-- An edit of a value changes neither the paths of a forest nor any field apart from its children,
but for the value of the edited field. -/
theorem rows_setValue {forest : List Field} {path : Path} {g : Field}
    (hg : fieldAt? forest path = some g) (value : Option String) :
    rows (setValue value forest path) = (occurrences forest).map fun o =>
      (o.1, if o.1 = path then { o.2.alone with value } else o.2.alone) := by
  obtain ⟨before, after, hocc, hrows⟩ :=
    occurrences_editField hg (fun f => { f with value }) rfl
  obtain ⟨hbefore, hafter⟩ := path_ne_of_occurrences_eq hocc
  rw [setValue, hrows, hocc, List.map_append, List.map_cons, if_pos rfl]
  congr 1
  · exact List.map_congr_left fun o ho => by rw [if_neg (hbefore o ho)]
  · congr 1
    exact List.map_congr_left fun o ho => by rw [if_neg (hafter o ho)]

/-- The edited forest has a field at the same paths, with the same name and description, and but for
the edited one with the same value. -/
theorem alone_of_setValue {forest : List Field} {path : Path} {g : Field}
    (hg : fieldAt? forest path = some g) (value : Option String) {p : Path} {f f' : Field}
    (hf : fieldAt? forest p = some f) (hf' : fieldAt? (setValue value forest path) p = some f') :
    f'.alone = if p = path then { f.alone with value } else f.alone := by
  have hrow : (p, f'.alone) ∈ rows (setValue value forest path) :=
    List.mem_map.2 ⟨(p, f'), mem_occurrences.2 hf', rfl⟩
  rw [rows_setValue hg value] at hrow
  obtain ⟨⟨q, h⟩, hmem, hrow⟩ := List.mem_map.1 hrow
  obtain ⟨rfl, halone⟩ := Prod.mk.inj hrow
  obtain rfl := Option.some.inj ((mem_occurrences.1 hmem).symm.trans hf)
  exact halone.symm

/-- A field keeps its name and its description, and but for the edited one its value. -/
theorem eq_of_setValue {forest : List Field} {path : Path} {g : Field}
    (hg : fieldAt? forest path = some g) (value : Option String) {p : Path} {f f' : Field}
    (hf : fieldAt? forest p = some f) (hf' : fieldAt? (setValue value forest path) p = some f') :
    f'.name = f.name ∧ f'.description = f.description ∧ (p ≠ path → f'.value = f.value) := by
  have halone := alone_of_setValue hg value hf hf'
  refine ⟨?_, ?_, fun hp => ?_⟩
  · calc f'.name = f'.alone.name := rfl
      _ = f.name := by rw [halone]; split <;> rfl
  · calc f'.description = f'.alone.description := rfl
      _ = f.description := by rw [halone]; split <;> rfl
  · calc f'.value = f'.alone.value := rfl
      _ = f.value := by rw [halone, if_neg hp]; rfl

/-- The forest with a tree at an index of the list that the path leads to. -/
def insertField (field : Field) (forest : List Field) (path : Path) (i : Nat) : List Field :=
  editList (·.insertIdx i field) forest path

/-- A tree inserted in a list stands between the trees before and those behind its index. -/
theorem insertIdx_eq_take_drop {siblings : List Field} {i : Nat} (hi : i ≤ siblings.length)
    (g : Field) : siblings.insertIdx i g = siblings.take i ++ g :: siblings.drop i := by
  have h := List.modifyTailIdx_add (List.cons g) 0 (siblings.take i) (siblings.drop i)
  rwa [List.take_append_drop, List.length_take_of_le hi] at h

/-- Two paths that start alike compare as what they go on with. -/
theorem append_lt_append_iff (path a b : Path) : path ++ a < path ++ b ↔ a < b := by
  induction path with
  | nil => rfl
  | cons i path ih =>
    rw [List.cons_append, List.cons_append, List.cons_lt_cons_iff, ih]
    simp

/-- The rows before the place of an inserted tree stay the same, and those behind it keep all but
their paths; between them are the rows of the tree. -/
theorem rows_insertField {forest siblings : List Field} {path : Path}
    (h : listAt? forest path = some siblings) {i : Nat} (hi : i ≤ siblings.length) (g : Field) :
    ∃ before after inserted shifted,
      rows forest = before ++ after ∧
      rows (insertField g forest path i) = before ++ inserted ++ shifted ∧
      inserted.map (·.2) = g.flatten.map Field.alone ∧
      shifted.map (·.2) = after.map (·.2) ∧
      (∀ x ∈ before, x.1 < path ++ [i]) ∧ (∀ x ∈ after, ¬ x.1 < path ++ [i]) := by
  obtain ⟨before, after, hbefore, hafter, hrows, hrows'⟩ := rows_editList h
  have hlen := List.length_take_of_le hi
  let inList (xs : List (Path × Field)) := xs.map fun x => (path ++ x.1, x.2)
  have hsnd (xs : List (Path × Field)) : (inList xs).map (·.2) = xs.map (·.2) := List.map_map
  -- The rows of the list part at the index, where those of the tree come in between.
  refine ⟨before ++ inList (rowsFrom 0 (siblings.take i)),
    inList (rowsFrom i (siblings.drop i)) ++ after,
    inList (rowsFrom i [g]), inList (rowsFrom (i + 1) (siblings.drop i)) ++ after,
    ?_, ?_, ?_, ?_, ?_, ?_⟩
  · conv_lhs => rw [hrows, ← List.take_append_drop i siblings, rows, rowsFrom_append, hlen]
    simp [inList]
  · rw [insertField, hrows', insertIdx_eq_take_drop hi, rows, rowsFrom_append, hlen,
      ← List.singleton_append, rowsFrom_append]
    simp [inList]
  · rw [hsnd, map_snd_rowsFrom, flattenAll, flattenAll, List.append_nil]
  · rw [List.map_append, List.map_append, hsnd, hsnd, map_snd_rowsFrom, map_snd_rowsFrom]
  · intro x hx
    rcases List.mem_append.1 hx with hx | hx
    · exact hbefore x hx i []
    · obtain ⟨y, hy, rfl⟩ := List.mem_map.1 hx
      exact List.append_left_lt (lt_of_mem_rowsFrom_take hy [])
  · intro x hx
    rcases List.mem_append.1 hx with hx | hx
    · obtain ⟨y, hy, rfl⟩ := List.mem_map.1 hx
      -- The index `j` within the list is `i` or a greater one.
      obtain ⟨j, -, rest, hpath⟩ := path_of_mem_rowsFrom hy
      rw [hpath, append_lt_append_iff, List.cons_lt_cons_iff]
      rintro (hlt | ⟨-, hlt⟩)
      · omega
      · exact List.not_lt_nil rest hlt
    · exact List.lt_asymm (hafter x hx [i])

/-- The fields of a forest that come before a path in pre-order. -/
def fieldsBefore (forest : List Field) (path : Path) : List Field :=
  ((occurrences forest).filter fun o => o.1 < path).map (·.2)

/-- The fields of a forest that come at a path or behind it in pre-order. -/
def fieldsFrom (forest : List Field) (path : Path) : List Field :=
  ((occurrences forest).filter fun o => ¬ o.1 < path).map (·.2)

/-- A path parts the occurrences that come before it from the others. -/
theorem filter_append_filter {l : List (Path × Field)} (h : l.Pairwise fun a b => a.1 < b.1)
    (path : Path) : (l.filter fun o => o.1 < path) ++ (l.filter fun o => ¬ o.1 < path) = l := by
  induction l with
  | nil => rfl
  | cons o l ih =>
    obtain ⟨ho, hl⟩ := List.pairwise_cons.1 h
    by_cases hlt : o.1 < path
    · rw [List.filter_cons_of_pos (by simpa using hlt),
        List.filter_cons_of_neg (by simpa using hlt), List.cons_append, ih hl]
    · -- All that follow come behind this one, and so behind the path.
      have hall : ∀ x ∈ o :: l, ¬ x.1 < path := fun x hx => by
        rcases List.mem_cons.1 hx with rfl | hx
        · exact hlt
        · exact fun hx' => hlt (List.lt_trans (ho x hx) hx')
      rw [List.filter_eq_nil_iff.2 fun x hx => by simpa using hall x hx,
        List.filter_eq_self.2 fun x hx => by simpa using hall x hx, List.nil_append]

/-- The fields of a forest are those before a path and those at it or behind it. -/
theorem fieldsBefore_append_fieldsFrom (forest : List Field) (path : Path) :
    fieldsBefore forest path ++ fieldsFrom forest path = flattenAll forest := by
  rw [fieldsBefore, fieldsFrom, ← List.map_append,
    filter_append_filter (occurrences_sorted forest), map_snd_occurrences]

/-- The occurrences and the rows at the paths with some property hold the same fields alone. -/
theorem map_alone_filter (forest : List Field) (keep : Path → Bool) :
    (((occurrences forest).filter fun o => keep o.1).map (·.2)).map Field.alone =
      ((rows forest).filter fun x => keep x.1).map (·.2) := by
  rw [rows, rowsFrom, List.filter_map, List.map_map, List.map_map]
  rfl

/-- The enlarged forest has the fields of the tree between those before its place and those at it or
behind it, where only the fields above the place have other children. -/
theorem flattenAll_insertField {forest siblings : List Field} {path : Path}
    (h : listAt? forest path = some siblings) {i : Nat} (hi : i ≤ siblings.length) (g : Field) :
    (flattenAll (insertField g forest path i)).map Field.alone =
      (fieldsBefore forest (path ++ [i]) ++ g.flatten ++ fieldsFrom forest (path ++ [i])).map
        Field.alone := by
  obtain ⟨before, after, inserted, shifted, hrows, hrows', hinserted, hshifted, hbefore, hafter⟩ :=
    rows_insertField h hi g
  have hbefore' : (fieldsBefore forest (path ++ [i])).map Field.alone = before.map (·.2) := by
    rw [fieldsBefore, map_alone_filter forest (· < path ++ [i]), hrows, List.filter_append,
      List.filter_eq_self.2 fun x hx => decide_eq_true (hbefore x hx),
      List.filter_eq_nil_iff.2 fun x hx => by simpa using hafter x hx, List.append_nil]
  have hafter' : (fieldsFrom forest (path ++ [i])).map Field.alone = after.map (·.2) := by
    rw [fieldsFrom, map_alone_filter forest (¬ · < path ++ [i]), hrows, List.filter_append,
      List.filter_eq_self.2 fun x hx => decide_eq_true (hafter x hx),
      List.filter_eq_nil_iff.2 fun x hx => by simpa using hbefore x hx, List.nil_append]
  rw [← map_snd_rows, hrows']
  simp only [List.map_append]
  rw [hinserted, hshifted, hbefore', hafter']

/-- Two edits of a list, one after the other, are one. -/
theorem editList_editList (first second : List Field → List Field) (forest : List Field)
    (path : Path) :
    editList second (editList first forest path) path =
      editList (fun siblings => second (first siblings)) forest path := by
  induction path generalizing forest with
  | nil => rfl
  | cons i path ih =>
    simp only [editList]
    rw [List.modify_modify_eq]
    congr 1
    funext f
    exact congrArg (fun children => { f with children }) (ih f.children)

/-- An edit that changes nothing in a list changes nothing in the forest. -/
theorem editList_id (forest : List Field) (path : Path) :
    editList (fun siblings => siblings) forest path = forest := by
  induction path generalizing forest with
  | nil => rfl
  | cons i path ih =>
    have hid : (fun f : Field =>
        { f with children := editList (fun siblings => siblings) f.children path }) = id := by
      funext f
      rw [ih]
      cases f
      rfl
    rw [editList, hid, List.modify_id]

/-- Removing an inserted tree restores the forest. -/
theorem removeField_insertField (g : Field) (forest : List Field) (path : Path) (i : Nat) :
    removeField (insertField g forest path i) (path ++ [i]) = forest := by
  simp only [removeField, List.getLast?_concat, List.dropLast_concat]
  rw [insertField, editList_editList]
  simp only [List.eraseIdx_insertIdx_self]
  exact editList_id forest path

end RequiredFields
