import Mathlib.Data.List.NodupEquivFin
import RequiredFields.Proofs.Record.Occurrences

/-!
# Positions in the list of all fields

The list of all fields of a forest has one position for each path that leads to a field, in the
order of the paths (`flattenAll_positions`). Paths are ordered index by index, and a path comes
before its extensions, so the first field of a name in the list is the one with the least path.
Fields that are equal are told apart by their positions as by their paths. The list is the same when
the fields are pushed, as the walk meets them, to those that it met before (`collectInto_eq`).
-/

namespace RequiredFields

mutual

/-- Pushes a field, and then all fields below it, to those that a walk has met. -/
def Field.collectInto (met : List Field) : Field → List Field
  | ⟨name, value, description, children⟩ =>
    collectInto (met ++ [⟨name, value, description, children⟩]) children

/-- Pushes the fields of a forest, each before its own, to those that a walk has met. -/
def collectInto (met : List Field) : List Field → List Field
  | [] => met
  | f :: fields => collectInto (f.collectInto met) fields

end

mutual

/-- A walk puts a field and those below it behind the fields that it met before. -/
theorem Field.collectInto_eq (met : List Field) : ∀ f : Field, f.collectInto met = met ++ f.flatten
  | ⟨name, value, description, children⟩ => by
    rw [Field.collectInto, Field.flatten, collectInto_eq _ children, List.append_assoc,
      List.singleton_append]

/-- A walk puts the fields of a forest behind those that it met before. -/
theorem collectInto_eq (met : List Field) :
    ∀ forest : List Field, collectInto met forest = met ++ flattenAll forest
  | [] => by rw [collectInto, flattenAll, List.append_nil]
  | f :: fields => by
    rw [collectInto, flattenAll, collectInto_eq _ fields, Field.collectInto_eq met f,
      List.append_assoc]

end

/-- The paths that lead to the fields of a forest, in the order of the walk. -/
def paths (forest : List Field) : List Path :=
  (occurrences forest).map (·.1)

/-- Every field has its path. -/
theorem length_paths (forest : List Field) :
    (paths forest).length = (flattenAll forest).length := by
  rw [paths, ← map_snd_occurrences, List.length_map, List.length_map]

/-- The paths are those that lead to a field. -/
theorem mem_paths {forest : List Field} {path : Path} :
    path ∈ paths forest ↔ (fieldAt? forest path).isSome := by
  rw [paths, List.mem_map, Option.isSome_iff_exists]
  constructor
  · rintro ⟨⟨path, f⟩, h, rfl⟩
    exact ⟨f, mem_occurrences.1 h⟩
  · rintro ⟨f, h⟩
    exact ⟨(path, f), mem_occurrences.2 h, rfl⟩

/-- Each path leads to the field at its position. -/
theorem fieldAt?_getElem_paths {forest : List Field} {n : Nat} (hpath : n < (paths forest).length)
    (hfield : n < (flattenAll forest).length) :
    fieldAt? forest (paths forest)[n] = some (flattenAll forest)[n] := by
  have hocc : n < (occurrences forest).length := by
    rwa [paths, List.length_map] at hpath
  have hmem : ((occurrences forest)[n].1, (occurrences forest)[n].2) ∈ occurrences forest :=
    List.getElem_mem hocc
  have hfst : (paths forest)[n] = (occurrences forest)[n].1 := List.getElem_map _
  have hsnd : (flattenAll forest)[n] = (occurrences forest)[n].2 := by
    simp only [← map_snd_occurrences, List.getElem_map]
  rw [hfst, hsnd]
  exact mem_occurrences.1 hmem

/-- The position of a field in the list of all fields, and the path that leads to it. -/
def pathAt (forest : List Field) :
    Fin (flattenAll forest).length ≃ {path : Path // (fieldAt? forest path).isSome} :=
  (finCongr (length_paths forest).symm).trans <|
    (List.Nodup.getEquiv (paths forest) (nodup_occurrences forest)).trans <|
      Equiv.subtypeEquivRight fun _ => mem_paths

/-- The path of a position leads to the field there. -/
theorem fieldAt?_pathAt (forest : List Field) (n : Fin (flattenAll forest).length) :
    fieldAt? forest (pathAt forest n) = some (flattenAll forest)[n] :=
  fieldAt?_getElem_paths ((length_paths forest).symm ▸ n.isLt) n.isLt

/-- Positions are in the order of their paths. -/
theorem pathAt_lt {forest : List Field} {m n : Fin (flattenAll forest).length} (h : m < n) :
    (pathAt forest m : Path) < pathAt forest n := by
  have hsorted : (paths forest).Pairwise (· < ·) :=
    List.pairwise_map.2 (occurrences_sorted forest)
  exact List.pairwise_iff_getElem.1 hsorted m n _ _ h

/-- The field at the path has the name, and no field with a smaller path has it. -/
def HasLeastPath (forest : List Field) (name : String) (path : Path) (f : Field) : Prop :=
  fieldAt? forest path = some f ∧ f.name = name ∧
    ∀ path' f', fieldAt? forest path' = some f' → f'.name = name → path' = path ∨ path < path'

/-- A name has one least path at most. -/
theorem HasLeastPath.unique {forest : List Field} {name : String} {path path' : Path} {f f' : Field}
    (h : HasLeastPath forest name path f) (h' : HasLeastPath forest name path' f') : f = f' := by
  have hpath : path' = path := by
    rcases h.2.2 path' f' h'.1 h'.2.1 with heq | hlt
    · exact heq
    · rcases h'.2.2 path f h.1 h.2.1 with heq | hlt'
      · exact heq.symm
      · exact absurd (List.lt_trans hlt hlt') (List.lt_irrefl _)
  have hsame := h.1
  rw [← hpath, h'.1] at hsame
  exact (Option.some.inj hsame).symm

/-- The field that is found by its name is one with a least path. -/
theorem exists_hasLeastPath_of_findField? {forest : List Field} {name : String} {f : Field}
    (h : findField? (flattenAll forest) name = some f) :
    ∃ path, HasLeastPath forest name path f := by
  rw [findField?, ← map_snd_occurrences, List.find?_map, Option.map_eq_some_iff] at h
  obtain ⟨⟨path, f⟩, hfind, rfl⟩ := h
  obtain ⟨hname, before, after, hocc, hbefore⟩ := List.find?_eq_some_iff_append.1 hfind
  have hsorted := occurrences_sorted forest
  rw [hocc] at hsorted
  have hbehind := (List.pairwise_cons.1 (List.pairwise_append.1 hsorted).2.1).1
  refine ⟨path, ?_, beq_iff_eq.1 hname, fun path' f' hf' hname' => ?_⟩
  · exact mem_occurrences.1 (hocc ▸ List.mem_append_right _ List.mem_cons_self)
  · -- The walk meets the other field before this one, here or behind it.
    have hmem : (path', f') ∈ before ++ (path, f) :: after := hocc ▸ mem_occurrences.2 hf'
    rcases List.mem_append.1 hmem with hmem | hmem
    · have hother := hbefore _ hmem
      simp [hname'] at hother
    · rcases List.mem_cons.1 hmem with heq | hmem
      · exact .inl (Prod.mk.inj heq).1
      · exact .inr (hbehind _ hmem)

/-- No field is found by a name exactly if no path leads to a field that has it. -/
theorem findField?_eq_none_iff {forest : List Field} {name : String} :
    findField? (flattenAll forest) name = none ↔
      ∀ path f, fieldAt? forest path = some f → f.name ≠ name := by
  rw [findField?, ← map_snd_occurrences, List.find?_map, Option.map_eq_none_iff, List.find?_eq_none]
  constructor
  · intro h path f hf hname
    exact h (path, f) (mem_occurrences.2 hf) (beq_iff_eq.2 hname)
  · intro h o ho hname
    exact h o.1 o.2 (mem_occurrences.1 ho) (beq_iff_eq.1 hname)

/-- The first field of a name in the list is the one with the least path. -/
theorem findField?_eq_some_iff {forest : List Field} {name : String} {f : Field} :
    findField? (flattenAll forest) name = some f ↔ ∃ path, HasLeastPath forest name path f := by
  refine ⟨exists_hasLeastPath_of_findField?, fun ⟨path, h⟩ => ?_⟩
  have hsome : findField? (flattenAll forest) name ≠ none := fun hnone =>
    findField?_eq_none_iff.1 hnone path f h.1 h.2.1
  obtain ⟨f', hf'⟩ := Option.ne_none_iff_exists'.1 hsome
  obtain ⟨path', h'⟩ := exists_hasLeastPath_of_findField? hf'
  rw [hf', h.unique h']

/-- The list of all fields has one position for each path that leads to a field, in the order of the
paths, and holds that field there; pushing the fields one by one makes the same list. So the field
that is found by a name is the one with the least path among those that have exactly this name, and
none is found exactly if no field at any depth has it. -/
theorem flattenAll_positions (forest : List Field) :
    (∃ e : Fin (flattenAll forest).length ≃ {path : Path // (fieldAt? forest path).isSome},
      (∀ n, fieldAt? forest (e n) = some (flattenAll forest)[n]) ∧
      ∀ m n, m < n → (e m : Path) < e n) ∧
    (∀ met, collectInto met forest = met ++ flattenAll forest) ∧
    (∀ name f, findField? (flattenAll forest) name = some f ↔
      ∃ path, HasLeastPath forest name path f) ∧
    ∀ name, findField? (flattenAll forest) name = none ↔
      ∀ path f, fieldAt? forest path = some f → f.name ≠ name := by
  refine ⟨⟨pathAt forest, fieldAt?_pathAt forest, fun m n => pathAt_lt⟩,
    fun met => collectInto_eq met forest, fun name f => findField?_eq_some_iff,
    fun name => findField?_eq_none_iff⟩

-- Two fields of a name, of which the one below another field has the smaller path.
example :
    let forest : List Field :=
      [⟨"b", none, none, [⟨"a", some "1", none, []⟩]⟩, ⟨"a", none, none, []⟩]
    paths forest = [[0], [0, 0], [1]] ∧
      findField? (flattenAll forest) "a" = some ⟨"a", some "1", none, []⟩ := by
  exact ⟨rfl, rfl⟩

end RequiredFields
