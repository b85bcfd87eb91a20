import RequiredFields.Proofs.Record.Edits

/-!
# Looking up values

What a record says under a name is the value of the first field with this name (`valueOf?`). It is
the same for all records whose fields agree apart from their children (`valueOf?_map_alone`), and
the same in any order of the fields if the name occurs at most once (`valueOf?_perm`). A field that
another one of its name precedes is not read: it may get another value (`valueOf?_replace`, in a
forest `valueOf?_setValue`) or be left out (`valueOf?_insert`).
-/

namespace RequiredFields

/-- The value of the first field with exactly the given name, if there is such a field. -/
def valueOf? (fields : List Field) (name : String) : Option (Option String) :=
  (findField? fields name).map (·.value)

/-- A look-up reads no children. -/
theorem valueOf?_map_alone (fields : List Field) (name : String) :
    valueOf? (fields.map Field.alone) name = valueOf? fields name := by
  unfold valueOf? findField?
  rw [List.find?_map, Option.map_map]
  rfl

/-- The fields in front are looked at first. -/
theorem valueOf?_append (a b : List Field) (name : String) :
    valueOf? (a ++ b) name = (valueOf? a name).or (valueOf? b name) := by
  unfold valueOf? findField?
  rw [List.find?_append]
  cases a.find? (·.name == name) <;> rfl

/-- Nothing is found exactly if no field has the name. -/
theorem valueOf?_eq_none_iff {fields : List Field} {name : String} :
    valueOf? fields name = none ↔ ∀ f ∈ fields, f.name ≠ name := by
  simp [valueOf?, findField?]

/-- A field in front is found by its name and passed over for any other. -/
theorem valueOf?_cons (f : Field) (fields : List Field) (name : String) :
    valueOf? (f :: fields) name = if f.name = name then some f.value else valueOf? fields name := by
  unfold valueOf? findField?
  by_cases h : f.name = name
  · rw [List.find?_cons_of_pos (by simpa using h), if_pos h, Option.map_some]
  · rw [List.find?_cons_of_neg (by simpa using h), if_neg h]

/-- Only the fields in front are looked at if one of them has the name. -/
theorem valueOf?_append_of_mem {a : List Field} {name : String} (h : ∃ f ∈ a, f.name = name)
    (b : List Field) : valueOf? (a ++ b) name = valueOf? a name := by
  obtain ⟨f, hf, hname⟩ := h
  obtain ⟨value, hvalue⟩ := Option.ne_none_iff_exists'.1 fun hnone =>
    valueOf?_eq_none_iff.1 hnone f hf hname
  rw [valueOf?_append, hvalue, Option.some_or]

/-- The value of a field matters for its own name alone, and not even for this one if a field in
front has it. -/
theorem valueOf?_replace {before : List Field} {f f' : Field} (hname : f'.name = f.name)
    {name : String} (h : f.name = name → ∃ g ∈ before, g.name = name) (after : List Field) :
    valueOf? (before ++ f' :: after) name = valueOf? (before ++ f :: after) name := by
  by_cases hf : f.name = name
  · rw [valueOf?_append_of_mem (h hf), valueOf?_append_of_mem (h hf)]
  · rw [valueOf?_append, valueOf?_append, valueOf?_cons, valueOf?_cons, hname, if_neg hf, if_neg hf]

/-- Fields between others do not matter for a name that they do not have, nor for one that a field
in front has. -/
theorem valueOf?_insert {before inserted : List Field} {name : String}
    (h : ∀ g ∈ inserted, g.name = name → ∃ f ∈ before, f.name = name) (after : List Field) :
    valueOf? (before ++ inserted ++ after) name = valueOf? (before ++ after) name := by
  rw [List.append_assoc]
  by_cases hbefore : ∃ f ∈ before, f.name = name
  · rw [valueOf?_append_of_mem hbefore, valueOf?_append_of_mem hbefore]
  · have hnone : valueOf? inserted name = none :=
      valueOf?_eq_none_iff.2 fun g hg hname => hbefore (h g hg hname)
    rw [valueOf?_append, valueOf?_append, hnone, Option.none_or, ← valueOf?_append]

/-- The order of the fields does not matter for a name that occurs at most once. -/
theorem valueOf?_perm {a b : List Field} (h : a.Perm b) {name : String}
    (hone : a.countP (·.name == name) ≤ 1) : valueOf? a name = valueOf? b name := by
  -- At most one field has the name, so those with the name stand in the same order in both.
  have hfilter := h.filter (·.name == name)
  rw [List.countP_eq_length_filter] at hone
  unfold valueOf? findField?
  rw [← List.head?_filter, ← List.head?_filter]
  cases ha : a.filter (·.name == name) with
  | nil =>
    rw [ha] at hfilter
    rw [hfilter.nil_eq]
  | cons f rest =>
    rw [ha, List.length_cons] at hone
    obtain rfl := List.eq_nil_of_length_eq_zero (l := rest) (by omega)
    rw [ha] at hfilter
    rw [List.singleton_perm.1 hfilter]

/-- The field `g` at the path is the first one in pre-order that has its name. -/
def IsFirst (forest : List Field) (path : Path) (g : Field) : Prop :=
  (occurrences forest).find? (·.2.name == g.name) = some (path, g)

/-- Under a name the edited forest has the same value, unless the edited field is the first one of
this name. -/
theorem valueOf?_setValue {forest : List Field} {path : Path} {g : Field}
    (hg : fieldAt? forest path = some g) (value : Option String) {name : String}
    (h : ¬ (IsFirst forest path g ∧ g.name = name)) :
    valueOf? (flattenAll (setValue value forest path)) name =
      valueOf? (flattenAll forest) name := by
  obtain ⟨before, after, hocc, hrows⟩ :=
    occurrences_editField hg (fun f => { f with value }) rfl
  have hfields : flattenAll forest = before.map (·.2) ++ g :: after.map (·.2) := by
    rw [← map_snd_occurrences, hocc, List.map_append, List.map_cons]
  have hedited : (flattenAll (setValue value forest path)).map Field.alone =
      (before.map (·.2) ++ { g with value } :: after.map (·.2)).map Field.alone := by
    rw [← map_snd_rows, setValue, hrows]
    simp only [List.map_append, List.map_cons, List.map_map]
    rfl
  rw [← valueOf?_map_alone, hedited, valueOf?_map_alone, hfields]
  have hsame : ({ g with value } : Field).name = g.name := rfl
  refine valueOf?_replace hsame (fun hname => ?_) _
  -- If no field before the edited one had its name, the edited one would be the first.
  by_contra hnone
  refine h ⟨?_, hname⟩
  rw [IsFirst, hocc, List.find?_eq_some_iff_append]
  refine ⟨by simp, before, after, rfl, fun o ho => ?_⟩
  simp only [Bool.not_eq_true', beq_eq_false_iff_ne, hname]
  exact fun ho' => hnone ⟨o.2, List.mem_map_of_mem ho, ho'⟩

/-- Under a name that a field before the inserted tree has, or that no field in the tree has, the
enlarged forest has the same value. -/
theorem valueOf?_insertField {forest siblings : List Field} {path : Path} {i : Nat} {g : Field}
    (hpath : listAt? forest path = some siblings) (hi : i ≤ siblings.length) {name : String}
    (h : ∀ f ∈ g.flatten, f.name = name →
      ∃ f' ∈ fieldsBefore forest (path ++ [i]), f'.name = name) :
    valueOf? (flattenAll (insertField g forest path i)) name =
      valueOf? (flattenAll forest) name := by
  rw [← valueOf?_map_alone, flattenAll_insertField hpath hi, valueOf?_map_alone,
    valueOf?_insert h, fieldsBefore_append_fieldsFrom]

end RequiredFields
