import Mathlib
import RequiredFields.Record.Json
import RequiredFields.Proofs.Json.Reading
import RequiredFields.Proofs.Record.Levels

/-!
# Records written and read back

A record is written without regard to its depth and read with a limit on the brackets that are open
at one time. Each level of fields takes two of them, one for the list and one for the field, and the
record itself takes one, so that of 127 brackets 63 levels are left for the fields
(`ofJson_written`). The reader is followed along its recursion: what is read of a written field is
read of its draft, member by member, and then of the fields below it with one level less
(`reads_toJson`). What is read from texts that were not written here, in the form of arrays or with
unknown members, keeps to the same limit (`levels_of_ofJson`), so every record that was read once
can be written and read again (`ofJson_roundTrip`).
-/

namespace RequiredFields

open Json

/-- The fields of a list are written one by one. -/
theorem fieldsToJson_eq_map (fields : List Field) :
    fieldsToJson fields = fields.map Field.toJson := by
  induction fields with
  | nil => rw [fieldsToJson, List.map_nil]
  | cons f fields ih => rw [fieldsToJson, ih, List.map_cons]

/-- The member for the fields below a field, if there are any. -/
def childrenMember : List Field → List (String × Value)
  | [] => []
  | f :: fields => [("children", .array ((f :: fields).map Field.toJson))]

/-- A field is written as an object that starts with its name. -/
theorem Field.toJson_eq (f : Field) :
    f.toJson = .object (("name", .string f.name) :: (optionalMember "value" f.value ++
      (optionalMember "description" f.description ++ childrenMember f.children))) := by
  obtain ⟨name, value, description, children⟩ := f
  cases children with
  | nil => simp [toJson, childrenMember]
  | cons child children => simp [toJson, childrenMember, fieldsToJson_eq_map]

/-- A part that may be absent is read from its member, and changes nothing if it has none. -/
theorem readsMembers_optional {σ : Type} {member : σ → String → Reader σ} {state : σ}
    {name : String} (after : Option String → σ) (habsent : after none = state)
    (hpresent : ∀ s, ReadsMember member state (name, .string s) (.ok (after (some s))))
    (part : Option String) {ms : List (String × Value)} {result : Except Refusal σ}
    (h : ReadsMembers member (after part) ms result) :
    ReadsMembers member state (optionalMember name part ++ ms) result := by
  cases part with
  | none => exact habsent ▸ h
  | some s => exact (hpresent s).cons fun _ hstate => Except.ok.inj hstate ▸ h

/-- Fields are kept one by one, so a list of them is kept if each of them is. -/
theorem mapM_guard {α : Type} (p : α → Prop) [DecidablePred p] (e : Refusal) (xs : List α) :
    (xs.mapM fun x => if p x then .ok x else .error e) =
      if ∀ x ∈ xs, p x then Except.ok xs else .error e := by
  induction xs with
  | nil => rfl
  | cons x xs ih =>
    rw [List.mapM_cons, ih]
    by_cases hx : p x
    · by_cases hxs : ∀ y ∈ xs, p y
      · rw [if_pos hx, if_pos hxs, if_pos (List.forall_mem_cons.2 ⟨hx, hxs⟩)]
        rfl
      · rw [if_pos hx, if_neg hxs, if_neg fun h => hxs (List.forall_mem_cons.1 h).2]
        rfl
    · rw [if_neg hx, if_neg fun h => hx (List.forall_mem_cons.1 h).1]
      rfl

namespace Field

variable {children : Reader (List Field)}

/-- The name of a field is read from its member. -/
theorem readsMember_name (name : String) :
    ReadsMember (readMember children) {} ("name", .string name) (.ok { name := some name }) := by
  intro l level rest
  have hread := readOnce_none (reads_readText name) "name" l level rest
  simp only [readMember, if_true, hread]
  rfl

/-- The value of a field is read from its member. -/
theorem readsMember_value (name value : String) :
    ReadsMember (readMember children) { name := some name } ("value", .string value)
      (.ok { name := some name, value := some (some value) }) := by
  intro l level rest
  have hread := readOnce_none ((reads_readText value).optional trivial) "value" l level rest
  simp only [readMember, if_true, hread]
  rfl

/-- The description of a field is read from its member. -/
theorem readsMember_description (name : String) (value : Option (Option String))
    (description : String) :
    ReadsMember (readMember children) { name := some name, value }
      ("description", .string description)
      (.ok { name := some name, value, description := some (some description) }) := by
  intro l level rest
  have hread :=
    readOnce_none ((reads_readText description).optional trivial) "description" l level rest
  simp only [readMember, if_true, hread]
  rfl

/-- The fields below a field are read from their member. -/
theorem readsMember_children {draft : Draft} (hslot : draft.children = none) {x : Value}
    {result : Except Refusal (List Field)} (h : Reads children x result) :
    ReadsMember (readMember children) draft ("children", x)
      (result.map fun fields => { draft with children := some fields }) := by
  intro l level rest
  have hread := readOnce_none h "children" l level rest
  simp only [readMember, if_true, hslot, hread]
  cases result <;> rfl

/-- The draft of a field that is read without the fields below it. -/
def draft (f : Field) : Draft where
  name := some f.name
  value := f.value.map some
  description := f.description.map some

/-- The members behind the name of a field are read into its draft, and then those of the fields
below it, if it has any. -/
theorem readsMembers_behindName (f : Field) {result : Except Refusal Draft}
    (h : ReadsMembers (readMember children) f.draft (childrenMember f.children) result) :
    ReadsMembers (readMember children) { name := some f.name }
      (optionalMember "value" f.value ++
        (optionalMember "description" f.description ++ childrenMember f.children)) result := by
  refine readsMembers_optional
    (fun value => { name := some f.name, value := value.map some : Draft }) rfl
    (readsMember_value f.name) f.value ?_
  exact readsMembers_optional
    (fun description => Draft.mk (some f.name) (f.value.map some) (description.map some) none)
    rfl (readsMember_description f.name (f.value.map some)) f.description h

/-- A field is made of its parts. -/
theorem mk_parts (f : Field) : ⟨f.name, f.value, f.description, f.children⟩ = f := by
  cases f
  rfl

/-- The field that a draft makes, which needs a name. -/
def Draft.toField (draft : Draft) : Except Refusal Field :=
  match draft.name with
  | some name =>
    .ok ⟨name, draft.value.join, draft.description.join, draft.children.getD []⟩
  | none => .error (.mismatch (.missing "name"))

/-- The object form of a field is its draft, made into a field. -/
theorem readObject_eq (children : Reader (List Field)) (text : List Char) :
    readObject children text =
      (readMembers readString (readMember children) {} true text).bind fun (draft, rest) =>
        draft.toField.map (·, rest) := by
  unfold readObject Draft.toField
  cases readMembers readString (readMember children) {} true text with
  | error e => rfl
  | ok read =>
    obtain ⟨draft, rest⟩ := read
    simp only [bind, Except.bind]
    cases draft.name <;> rfl

/-- A written field is read up to the fields below it, and then with what those are read as. -/
theorem reads_read (f : Field) {drafted : Except Refusal Draft}
    (h : ReadsMembers (readMember children) f.draft (childrenMember f.children) drafted) :
    Reads (read (some children)) f.toJson (drafted.bind Draft.toField) := by
  intro l level gap rest hgap
  obtain ⟨text, hwrite, hread⟩ := (readsMember_name f.name).object
    (fun draft hdraft => Except.ok.inj hdraft ▸ readsMembers_behindName f h) l level rest
  have hobject : readObject children text = (drafted.bind Draft.toField).map (·, rest) := by
    rw [readObject_eq, hread]
    cases drafted <;> rfl
  rw [← toJson_eq] at hwrite
  unfold read
  rw [hwrite, skipBlank_append hgap rfl]
  exact hobject

/-- A draft of a field makes the field, with the fields below it that were read. -/
theorem toField_draft (f : Field) (fields : Option (List Field)) :
    Draft.toField ⟨some f.name, f.value.map some, f.description.map some, fields⟩ =
      .ok ⟨f.name, f.value, f.description, fields.getD []⟩ := by
  have hjoin : ∀ x : Option String, (x.map some).join = x := by
    intro x
    cases x <;> rfl
  unfold Draft.toField
  rw [hjoin, hjoin]

/-- A field without fields below it is read back. -/
theorem reads_of_leaf {f : Field} (hf : f.children = []) :
    Reads (read (some children)) f.toJson (.ok f) := by
  have hdraft := readsMembers_nil (readMember children) f.draft
  rw [show [] = childrenMember f.children by rw [hf]; rfl] at hdraft
  have hread := reads_read f hdraft
  have hfield : f.draft.toField = .ok f := by
    calc f.draft.toField
        = .ok ⟨f.name, f.value, f.description, []⟩ := toField_draft f none
      _ = .ok f := by rw [← hf, mk_parts]
  rwa [Except.bind, hfield] at hread

/-- A field with fields below it is read back with what those are read as. -/
theorem reads_of_group {f : Field} (hf : f.children ≠ []) {result : Except Refusal (List Field)}
    (h : Reads children (.array (f.children.map toJson)) result) :
    Reads (read (some children)) f.toJson
      (result.map fun fields => { f with children := fields }) := by
  have hmembers : childrenMember f.children =
      [("children", .array (f.children.map toJson))] := by
    cases hchildren : f.children with
    | nil => contradiction
    | cons child children => rfl
  have hmember : ReadsMember (readMember children) f.draft
      ("children", .array (f.children.map toJson))
      (result.map fun fields => { f.draft with children := some fields }) :=
    readsMember_children rfl h
  have hdraft := hmember.cons fun draft _ => readsMembers_nil _ draft
  rw [← hmembers] at hdraft
  have hread := reads_read f hdraft
  cases result with
  | error e => exact hread
  | ok fields =>
    have hfield : Draft.toField { f.draft with children := some fields } =
        .ok { f with children := fields } := toField_draft f (some fields)
    rw [Except.map, Except.bind, Except.bind, hfield] at hread
    exact hread

/-- The lists that are read when `2 * (k + 1)` brackets are left: one is the list's own, and one is
that of each field in it. -/
theorem readList_succ (k : Nat) :
    readList (2 * (k + 1)) =
      Json.readList (2 * k + 2) fun _ => read (some (readList (2 * k))) :=
  rfl

/-- A written list of fields is read back if `k + 1` levels are left for them and no field of it
needs more. -/
theorem reads_readList_succ {k : Nat} {fields : List Field}
    (h : ∀ f ∈ fields, Reads (read (some (readList (2 * k)))) f.toJson
      (if f.levels ≤ k + 1 then .ok f else .error .malformed)) :
    Reads (readList (2 * (k + 1))) (.array (fields.map toJson))
      (if levelsOf fields ≤ k + 1 then .ok fields else .error .malformed) := by
  have hlist := @reads_readList _ _ (fun _ => read (some (readList (2 * k)))) toJson _ (2 * k + 1)
    fields fun f hf => ⟨f.toJson_eq ▸ trivial, h f hf⟩
  rw [mapM_guard (fun f : Field => f.levels ≤ k + 1)] at hlist
  simp only [levelsOf_le_iff_forall]
  exact hlist

/-- A written field is read back if `k` levels are left for the fields below it, two brackets each,
and refused if it needs more of them. -/
theorem reads_toJson (k : Nat) (f : Field) :
    Reads (read (some (readList (2 * k)))) f.toJson
      (if f.levels ≤ k + 1 then .ok f else .error .malformed) := by
  induction k generalizing f with
  | zero =>
    by_cases hf : f.children = []
    · rw [if_pos (Nat.le_of_eq (levels_of_leaf hf))]
      exact reads_of_leaf hf
    · have hlevels : ¬ f.levels ≤ 0 + 1 := by
        obtain ⟨child, children, hchildren⟩ := List.exists_cons_of_ne_nil hf
        have hpos := levelsOf_cons_pos child children
        rw [f.levels_eq, hchildren]
        omega
      rw [if_neg hlevels]
      -- No bracket is left for the list of fields below this one.
      exact reads_of_group hf (reads_readList_zero (fun _ => read none) _)
  | succ k ih =>
    by_cases hf : f.children = []
    · have hlevels : f.levels ≤ k + 1 + 1 := by
        rw [levels_of_leaf hf]
        omega
      rw [if_pos hlevels]
      exact reads_of_leaf hf
    · have hread := reads_of_group hf (reads_readList_succ fun g (_ : g ∈ f.children) => ih g)
      have hlevels : f.levels ≤ k + 1 + 1 ↔ levelsOf f.children ≤ k + 1 := by
        rw [f.levels_eq, Nat.add_le_add_iff_right]
      by_cases hchildren : levelsOf f.children ≤ k + 1
      · rw [if_pos hchildren, Except.map, mk_parts] at hread
        rw [if_pos (hlevels.2 hchildren)]
        exact hread
      · rw [if_neg hchildren] at hread
        rw [if_neg (hlevels.not.2 hchildren)]
        exact hread

/-! ## What is read from any text -/

/-- A member of a field leaves the fields below it as they are, or is what they are read from. -/
theorem children_of_readMember {draft draft' : Draft} {name : String} {text rest : List Char}
    (h : readMember children draft name text = .ok (draft', rest)) :
    draft'.children = draft.children ∨
      ∃ fields behind, children behind = .ok (fields, rest) ∧ draft'.children = some fields := by
  by_cases hname : name = "children"
  · rw [hname] at h
    obtain ⟨⟨slot, rest'⟩, honce, h⟩ := exists_of_bind_eq_ok h
    cases h
    obtain ⟨fields, behind, hread, hslot⟩ := exists_of_readOnce honce
    exact .inr ⟨fields, behind, hread, hslot⟩
  · -- Every other member is read into another part of the draft, or skipped.
    left
    unfold readMember at h
    split_ifs at h
    all_goals
      obtain ⟨_, -, h⟩ := exists_of_bind_eq_ok h
      cases h
      rfl

/-- The fields below a field that is read from its object form were read. -/
theorem levels_of_readObject {k : Nat}
    (hread : ∀ text fields rest, children text = .ok (fields, rest) → levelsOf fields ≤ k)
    {text : List Char} {f : Field} {rest : List Char}
    (h : readObject children text = .ok (f, rest)) : levelsOf f.children ≤ k := by
  rw [readObject_eq] at h
  obtain ⟨⟨draft, rest'⟩, hmembers, h⟩ := exists_of_bind_eq_ok h
  -- After any number of members, the children in the draft were read or are none.
  have hdraft : levelsOf (draft.children.getD []) ≤ k := by
    refine readMembers_invariant (P := fun draft : Draft => levelsOf (draft.children.getD []) ≤ k)
      ?_ ?_ hmembers
    · intro draft name text draft' rest hdraft hmember
      obtain hsame | ⟨fields, behind, hfields, hnew⟩ := children_of_readMember hmember
      · rw [hsame]
        exact hdraft
      · rw [hnew]
        exact hread behind fields rest hfields
    · exact Nat.zero_le k
  cases hname : draft.name with
  | none =>
    simp only [Draft.toField, hname] at h
    contradiction
  | some name =>
    simp only [Draft.toField, hname] at h
    cases h
    exact hdraft

/-- A list of fields that may be missing from an array was read, or stands for no fields. -/
theorem levels_of_readElement? {k : Nat} {first : Bool}
    (hread : ∀ text fields rest, children text = .ok (fields, rest) → levelsOf fields ≤ k)
    {text : List Char} {found : Option (List Field)} {rest : List Char}
    (h : readElement? first children text = .ok (found, rest)) : levelsOf (found.getD []) ≤ k := by
  cases found with
  | none => exact Nat.zero_le k
  | some fields => exact forall_of_readElement? hread h

/-- The fields below a field that is read from its array form were read. -/
theorem levels_of_readArray {k : Nat}
    (hread : ∀ text fields rest, children text = .ok (fields, rest) → levelsOf fields ≤ k)
    {text : List Char} {f : Field} {rest : List Char}
    (h : readArray children text = .ok (f, rest)) : levelsOf f.children ≤ k := by
  -- The four elements are read in turn, and the fields below are those of the last one.
  obtain ⟨⟨_ | name, text⟩, -, h⟩ := exists_of_bind_eq_ok h
  · cases h
  obtain ⟨⟨value, text⟩, -, h⟩ := exists_of_bind_eq_ok h
  obtain ⟨⟨description, text⟩, -, h⟩ := exists_of_bind_eq_ok h
  obtain ⟨⟨found, text⟩, hfound, h⟩ := exists_of_bind_eq_ok h
  obtain ⟨_, -, h⟩ := exists_of_bind_eq_ok h
  cases h
  exact levels_of_readElement? hread hfound

/-- A field is one level above the fields below it that can be read. -/
theorem levels_of_read {k : Nat}
    (hread : ∀ text fields rest, children text = .ok (fields, rest) → levelsOf fields ≤ k)
    {text : List Char} {f : Field} {rest : List Char}
    (h : read (some children) text = .ok (f, rest)) : f.levels ≤ k + 1 := by
  have hchildren : levelsOf f.children ≤ k := by
    unfold read at h
    split at h
    · contradiction
    · contradiction
    · next hsome => exact levels_of_readArray hread (Option.some.inj hsome ▸ h)
    · next hsome => exact levels_of_readObject hread (Option.some.inj hsome ▸ h)
    · contradiction
  rw [f.levels_eq]
  omega

/-- A list that is read when `2 * k` brackets are left has at most `k` levels. -/
theorem levels_of_readList {k : Nat} {text : List Char} {fields : List Field} {rest : List Char}
    (h : readList (2 * k) text = .ok (fields, rest)) : levelsOf fields ≤ k := by
  induction k generalizing text fields rest with
  | zero =>
    obtain ⟨left, _, hdepth, -⟩ := exists_of_readList h
    contradiction
  | succ k ih =>
    rw [readList_succ] at h
    obtain ⟨_, behind, -, h⟩ := exists_of_readList h
    rw [levelsOf_le_iff_forall]
    exact forall_of_readElements (fun _ _ _ => levels_of_read fun _ _ _ => ih) h

end Field

/-! ## Records -/

namespace Record

/-- A record is written as an object with its fields alone. -/
theorem toJson_eq (r : Record) :
    r.toJson = .object [("fields", .array (r.fields.map Field.toJson))] := by
  rw [toJson, fieldsToJson_eq_map]

/-- A written record is read back if `k + 1` levels are left for its fields and none of them needs
more, and refused otherwise. -/
theorem reads_toJson (k : Nat) (r : Record) :
    Reads (read (2 * (k + 1) + 1)) r.toJson
      (if r.levels ≤ k + 1 then .ok r else .error .malformed) := by
  intro l level gap rest hgap
  have hlist : Reads (Field.readList (2 * (k + 1))) (.array (r.fields.map Field.toJson))
      (if r.levels ≤ k + 1 then .ok r.fields else .error .malformed) :=
    Field.reads_readList_succ fun f _ => Field.reads_toJson k f
  have hmember : ReadsMember (readMember (2 * (k + 1))) none
      ("fields", .array (r.fields.map Field.toJson))
      ((if r.levels ≤ k + 1 then Except.ok r.fields else .error .malformed).map some) :=
    fun l level rest => readOnce_none hlist "fields" l level rest
  obtain ⟨text, hwrite, hread⟩ :=
    hmember.object (fun slot _ => readsMembers_nil _ slot) l level rest
  rw [← toJson_eq] at hwrite
  unfold read
  rw [hwrite, skipBlank_append hgap rfl]
  simp only [hread]
  split <;> rfl

/-- A member of a record leaves its fields as they are, or is what they are read from. -/
theorem levels_of_readMember {k : Nat} {slot slot' : Option (List Field)} {name : String}
    {text rest : List Char} (hslot : levelsOf (slot.getD []) ≤ k)
    (h : readMember (2 * k) slot name text = .ok (slot', rest)) :
    levelsOf (slot'.getD []) ≤ k := by
  unfold readMember at h
  split_ifs at h with hname
  · obtain ⟨fields, behind, hread, rfl⟩ := exists_of_readOnce h
    exact Field.levels_of_readList hread
  · obtain ⟨_, -, h⟩ := exists_of_bind_eq_ok h
    cases h
    exact hslot

/-- A record that is read when `2 * k + 1` brackets are left, one of them its own, has at most `k`
levels. -/
theorem levels_of_read {k : Nat} {text : List Char} {r : Record} {rest : List Char}
    (h : read (2 * k + 1) text = .ok (r, rest)) : r.levels ≤ k := by
  unfold read at h
  split at h
  · contradiction
  · contradiction
  · next hdepth =>
    cases hdepth
    obtain ⟨⟨found, text⟩, hfound, h⟩ := exists_of_bind_eq_ok h
    obtain ⟨_, -, h⟩ := exists_of_bind_eq_ok h
    cases h
    exact Field.levels_of_readElement? (fun _ _ _ => Field.levels_of_readList) hfound
  · next hdepth =>
    cases hdepth
    obtain ⟨⟨slot, rest'⟩, hmembers, h⟩ := exists_of_bind_eq_ok h
    cases h
    have hnone : levelsOf ((none : Option (List Field)).getD []) ≤ k := Nat.zero_le k
    exact readMembers_invariant (P := fun slot => levelsOf (slot.getD []) ≤ k)
      (fun _ _ _ _ _ => levels_of_readMember) hnone hmembers
  · contradiction

/-- A written record, in any layout and with any blanks around it, is read back if none of its
fields is deeper than level 63, and refused as malformed otherwise. -/
theorem ofJson_writeIn (r : Record) (l : Layout) {before after : List Char} (hbefore : IsGap before)
    (hafter : IsGap after) :
    ofJson (.ofList (before ++ (r.toJson.writeIn l 0 ++ after))) =
      if r.levels ≤ 63 then .ok r else .error .malformed :=
  (reads_toJson 62 r).document l hbefore hafter

/-- The two texts that a record is written as are read in the same way. -/
theorem ofJson_written {r : Record} {text : String}
    (h : text = r.toJson.compact ∨ text = r.toJson.pretty) :
    ofJson text = if r.levels ≤ 63 then .ok r else .error .malformed := by
  have hempty : IsGap [] := List.forall_mem_nil _
  rcases h with rfl | rfl
  · have htext := ofJson_writeIn r .compact hempty hempty
    rwa [List.nil_append, List.append_nil, ← Value.write_eq_writeIn] at htext
  · have htext := ofJson_writeIn r .pretty hempty hempty
    rwa [List.nil_append, List.append_nil, ← Value.writeLines_eq_writeIn] at htext

/-- A record that is read from a text has at most 63 levels. -/
theorem levels_of_ofJson {text : String} {r : Record} (h : ofJson text = .ok r) :
    r.levels ≤ 63 := by
  obtain ⟨⟨r', rest⟩, hread, h⟩ := exists_of_bind_eq_ok h
  have hlevels : r'.levels ≤ 63 := levels_of_read hread
  have hsame : r' = r := by
    cases hrest : skipBlank rest with
    | nil =>
      simp only [hrest] at h
      exact Except.ok.inj h
    | cons c rest =>
      simp only [hrest] at h
      contradiction
  exact hsame ▸ hlevels

/-- A written record, in one line or in several, is read back exactly if its deepest field is at
most at level 63, that is if no path that leads to a field is longer; it is refused as malformed
otherwise. So whatever text a record was read from, the texts written from it are read as the same
record. -/
theorem ofJson_roundTrip :
    (∀ (r : Record) (text : String), text = r.toJson.compact ∨ text = r.toJson.pretty →
      ofJson text = if r.levels ≤ 63 then .ok r else .error .malformed) ∧
    (∀ r : Record, r.levels ≤ 63 ↔
      ∀ path f, fieldAt? r.fields path = some f → path.length ≤ 63) ∧
    ∀ (text : String) (r : Record), ofJson text = .ok r →
      r.levels ≤ 63 ∧ ofJson r.toJson.compact = .ok r ∧ ofJson r.toJson.pretty = .ok r := by
  refine ⟨fun r text h => ofJson_written h, fun r => levelsOf_le_iff, fun text r h => ?_⟩
  have hlevels := levels_of_ofJson h
  refine ⟨hlevels, ?_, ?_⟩
  · rw [ofJson_written (.inl rfl), if_pos hlevels]
  · rw [ofJson_written (.inr rfl), if_pos hlevels]

/-- A text in the form of arrays, with a field that has an unknown member in front of an escaped
name and one with `null` for its value; and a chain of 64 fields, which can be written but not read.
-/
theorem ofJson_roundTrip_forms :
    let text := "[[\x7b\"q\":1e999,\"name\":\"\\u00e9\"\x7d,[\"b\",null,\"\",[[\"\"]]]]]"
    let r : Record := ⟨[⟨"é", none, none, []⟩, ⟨"b", none, some "", [⟨"", none, none, []⟩]⟩]⟩
    let deep : Record := ⟨[.chain 63]⟩
    ofJson text = .ok r ∧ ofJson r.toJson.compact = .ok r ∧ deep.levels = 64 ∧
      ofJson deep.toJson.compact = .error .malformed := by
  intro text r deep
  have hr : ofJson text = .ok r := by cbv
  have hback := ofJson_roundTrip.2.2 text r hr
  have hlevels : deep.levels = 64 := by
    rw [levels, levelsOf, levelsOf, Field.levels_chain]
    rfl
  have hdeep : ¬ deep.levels ≤ 63 := by omega
  have hrefused := ofJson_roundTrip.1 deep _ (.inl rfl)
  rw [if_neg hdeep] at hrefused
  exact ⟨hr, hback.2.1, hlevels, hrefused⟩

end Record

end RequiredFields
