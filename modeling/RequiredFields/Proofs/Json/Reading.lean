import Mathlib.Data.List.TakeWhile
import RequiredFields.Proofs.Json.Layout
import RequiredFields.Proofs.Json.Quotation

/-!
# Reading what was written

`Reads` says what a reader makes of a written value, in every layout and behind any blanks: a result
and the text behind the value, or a refusal. Arrays and objects are read part by part, so what is
read from them follows from their parts: the elements of an array one after the other
(`reads_readList`), the members of an object each with what was read before it
(`ReadsMember.object`). The last section says the same without a written value: what holds of
everything that the parts of a text are read as holds of the whole (`forall_of_readElements`,
`readMembers_invariant`).
-/

namespace RequiredFields.Json

open Value (writeString writeChar withCommas itemsIn membersIn)

variable {α β σ : Type}

/-- Blanks in front are skipped. -/
theorem skipBlank_gap_append {gap : List Char} (hgap : IsGap gap) (text : List Char) :
    skipBlank (gap ++ text) = skipBlank text :=
  List.dropWhile_append_of_pos hgap

/-- Blanks in front of something else are skipped. -/
theorem skipBlank_append {gap : List Char} (hgap : IsGap gap) {c : Char}
    (hc : isBlank c = false) (text : List Char) : skipBlank (gap ++ c :: text) = c :: text := by
  rw [skipBlank_gap_append hgap, skipBlank, List.dropWhile_cons_of_neg (by simp [hc])]

/-- What the reader makes of the value, in every layout, behind any blanks and before any text. -/
def Reads (item : Reader α) (x : Value) (result : Except Refusal α) : Prop :=
  ∀ (l : Layout) (level : Nat) (gap rest : List Char), IsGap gap →
    item (gap ++ (x.writeIn l level ++ rest)) = result.map (·, rest)

/-- A value with a mark of its own at its start: a string, an array or an object. -/
def Value.IsDelimited : Value → Prop
  | string _ | array _ | object _ => True
  | _ => False

/-- The text of an array or object starts with its bracket. -/
theorem exists_bracketed_eq_cons (l : Layout) (level : Nat) (first last : Char)
    (parts : List (List Char)) : ∃ text, l.bracketed level first last parts = first :: text := by
  unfold Layout.bracketed
  split
  · exact ⟨_, rfl⟩
  · exact ⟨_, rfl⟩

/-- The texts of strings, arrays and objects start with their marks. -/
theorem Value.IsDelimited.exists_eq_cons {x : Value} (h : x.IsDelimited) (l : Layout)
    (level : Nat) :
    ∃ c text, x.writeIn l level = c :: text ∧ (c = '"' ∨ c = '[' ∨ c = '\x7b') := by
  cases x with
  | string s => exact ⟨'"', _, by rw [writeIn]; rfl, .inl rfl⟩
  | array items =>
    obtain ⟨text, htext⟩ :=
      exists_bracketed_eq_cons l level '[' ']' (itemsIn l (level + 1) items)
    exact ⟨'[', text, by rw [writeIn, htext], .inr (.inl rfl)⟩
  | object members =>
    obtain ⟨text, htext⟩ :=
      exists_bracketed_eq_cons l level '\x7b' '\x7d' (membersIn l (level + 1) members)
    exact ⟨'\x7b', text, by rw [writeIn, htext], .inr (.inr rfl)⟩
  | null | boolean | number => contradiction

/-- The marks that delimited values start with are no blanks. -/
theorem isBlank_mark {c : Char} (hc : c = '"' ∨ c = '[' ∨ c = '\x7b') : isBlank c = false := by
  rcases hc with rfl | rfl | rfl <;> rfl

/-! ## Strings -/

/-- A string is read back where a string is wanted. -/
theorem reads_readText (s : String) : Reads readText (.string s) (.ok s) := by
  intro l level gap rest hgap
  have hwrite : (Value.string s).writeIn l level ++ rest =
      '"' :: (s.toList.flatMap writeChar ++ '"' :: rest) := by
    rw [Value.writeIn, writeString, List.cons_append, List.append_assoc, List.singleton_append]
  unfold readText
  rw [hwrite, skipBlank_append hgap rfl]
  exact readString_writeChar s rest

/-- A delimited value is read in the same way where `null` might stand. -/
theorem Reads.optional {item : Reader α} {x : Value} {result : Except Refusal α}
    (h : Reads item x result) (hx : x.IsDelimited) :
    Reads (readOptional item) x (result.map some) := by
  intro l level gap rest hgap
  obtain ⟨c, text, hwrite, hc⟩ := hx.exists_eq_cons l level
  have hread : item (c :: (text ++ rest)) = result.map (·, rest) := by
    rw [← List.cons_append, ← hwrite]
    exact h l level [] rest (List.forall_mem_nil _)
  unfold readOptional
  rw [hwrite, List.cons_append, skipBlank_append hgap (isBlank_mark hc)]
  split
  · -- No delimited value starts like the word `null`.
    next heq =>
    rw [(List.cons.inj heq).1] at hc
    rcases hc with hc | hc | hc <;> contradiction
  · rw [hread]
    cases result <;> rfl

/-! ## Elements -/

/-- Parts in a row, each behind a comma and the start of a line. -/
def Layout.row (l : Layout) (level : Nat) (parts : List (List Char)) : List Char :=
  parts.flatMap fun part => ',' :: (l.line level ++ part)

/-- Commas between parts are commas in front of all parts but the first. -/
theorem withCommas_cons (part : List Char) (parts : List (List Char)) :
    withCommas (part :: parts) = part ++ parts.flatMap (',' :: ·) := by
  induction parts generalizing part with
  | nil => simp [withCommas]
  | cons next parts ih =>
    rw [withCommas, ih]
    · simp
    · simp

/-- Between brackets the first part stands behind the start of a line, the others in a row. -/
theorem bracketed_cons (l : Layout) (level : Nat) (first last : Char) (part : List Char)
    (parts : List (List Char)) :
    l.bracketed level first last (part :: parts) =
      first :: (l.line (level + 1) ++ (part ++ (l.row (level + 1) parts ++
        (l.line level ++ [last])))) := by
  simp [Layout.bracketed, Layout.row, withCommas_cons, List.flatMap_map]

/-- A character that an element may start with. -/
def StartsElement (c : Char) : Prop :=
  isBlank c = false ∧ c ≠ ',' ∧ c ≠ ']'

/-- The marks that delimited values start with may start an element. -/
theorem startsElement_mark {c : Char} (hc : c = '"' ∨ c = '[' ∨ c = '\x7b') : StartsElement c := by
  rcases hc with rfl | rfl | rfl <;> exact ⟨rfl, by decide, by decide⟩

/-- The first element of an array is found behind blanks. -/
theorem nextElement?_first {gap text : List Char} {c : Char} (hgap : IsGap gap)
    (hc : StartsElement c) : nextElement? true (gap ++ c :: text) = .ok (some (c :: text)) := by
  obtain ⟨hblank, hcomma, hend⟩ := hc
  unfold nextElement?
  rw [skipBlank_append hgap hblank]
  split <;> simp_all

/-- The next element of an array is found behind a comma and blanks. -/
theorem nextElement?_comma {gap text : List Char} {c : Char} (hgap : IsGap gap)
    (hc : StartsElement c) :
    nextElement? false (',' :: (gap ++ c :: text)) = .ok (some (c :: text)) := by
  obtain ⟨hblank, -, hend⟩ := hc
  have hcomma : skipBlank (',' :: (gap ++ c :: text)) = ',' :: (gap ++ c :: text) := rfl
  unfold nextElement?
  simp only [hcomma, skipBlank_append hgap hblank, Bool.false_eq_true, if_false]
  split <;> simp_all

/-- The end of an array is found behind blanks. -/
theorem nextElement?_end {gap : List Char} (hgap : IsGap gap) (first : Bool) (rest : List Char) :
    nextElement? first (gap ++ ']' :: rest) = .ok none := by
  unfold nextElement?
  rw [skipBlank_append hgap rfl]
  rfl

/-- Behind its last element an array ends. -/
theorem readElements_end (item : Reader α) (first : Bool) {gap : List Char} (hgap : IsGap gap)
    (rest : List Char) : readElements item first (gap ++ ']' :: rest) = .ok ([], rest) := by
  rw [readElements]
  simp only [nextElement?_end hgap]
  rw [skipBlank_append hgap rfl]
  rfl

/-- One element is read, and then the others. `front` is what stands in front of it: blanks, behind
a comma unless it is the first. -/
theorem readElements_cons {item : Reader α} {toValue : β → Value} {step : β → Except Refusal α}
    {b : β} {bs : List β} (hb : (toValue b).IsDelimited) (hread : Reads item (toValue b) (step b))
    {first : Bool} {front : List Char} (hfront : ∀ {c : Char} {text : List Char},
      StartsElement c → nextElement? first (front ++ c :: text) = .ok (some (c :: text)))
    (l : Layout) (level : Nat) {more rest : List Char}
    (hmore : readElements item false more = (bs.mapM step).map (·, rest)) :
    readElements item first (front ++ ((toValue b).writeIn l level ++ more)) =
      ((b :: bs).mapM step).map (·, rest) := by
  obtain ⟨c, text, hwrite, hc⟩ := hb.exists_eq_cons l level
  have hitem : item (c :: (text ++ more)) = (step b).map (·, more) := by
    rw [← List.cons_append, ← hwrite]
    exact hread l level [] more (List.forall_mem_nil _)
  -- The reader goes on only where it has taken something from the text, as every element does.
  have hlt : more.length < (front ++ c :: (text ++ more)).length := by
    simp only [List.length_cons, List.length_append]
    omega
  rw [hwrite, List.cons_append, readElements, List.mapM_cons]
  cases hstep : step b with
  | error e =>
    rw [hstep] at hitem
    simp only [hfront (startsElement_mark hc), hitem]
    rfl
  | ok y =>
    rw [hstep] at hitem
    simp only [hfront (startsElement_mark hc), hitem, Except.map, hlt, if_true, hmore]
    cases bs.mapM step <;> rfl

/-- The elements in a row are read one after the other, up to the end of the array. -/
theorem readElements_row {item : Reader α} {toValue : β → Value} {step : β → Except Refusal α}
    {bs : List β} (h : ∀ b ∈ bs, (toValue b).IsDelimited ∧ Reads item (toValue b) (step b))
    (l : Layout) (level : Nat) {gap : List Char} (hgap : IsGap gap) (rest : List Char) :
    readElements item false
        (l.row level (itemsIn l level (bs.map toValue)) ++ (gap ++ ']' :: rest)) =
      (bs.mapM step).map (·, rest) := by
  induction bs with
  | nil =>
    rw [List.map_nil, itemsIn, Layout.row, List.flatMap_nil, List.nil_append,
      readElements_end item false hgap]
    rfl
  | cons b bs ih =>
    obtain ⟨⟨hb, hread⟩, hbs⟩ := List.forall_mem_cons.1 h
    -- The first element, with the comma in front of it, is taken off the row.
    have hrow : l.row level (itemsIn l level ((b :: bs).map toValue)) ++ (gap ++ ']' :: rest) =
        (',' :: l.line level) ++ ((toValue b).writeIn l level ++
          (l.row level (itemsIn l level (bs.map toValue)) ++ (gap ++ ']' :: rest))) := by
      simp [itemsIn, Layout.row]
    rw [hrow]
    exact readElements_cons hb hread (nextElement?_comma (l.isGap_line level)) l level (ih hbs)

/-- The elements of a written array are read one after the other, if a level of nesting is left
for the array. -/
theorem reads_readList {item : Nat → Reader α} {toValue : β → Value}
    {step : β → Except Refusal α} {depth : Nat} {bs : List β}
    (h : ∀ b ∈ bs, (toValue b).IsDelimited ∧ Reads (item depth) (toValue b) (step b)) :
    Reads (readList (depth + 1) item) (.array (bs.map toValue)) (bs.mapM step) := by
  intro l level gap rest hgap
  unfold readList
  cases bs with
  | nil =>
    have hwrite : (Value.array []).writeIn l level ++ rest = '[' :: ([] ++ ']' :: rest) := by
      simp [Value.writeIn, itemsIn, Layout.bracketed]
    rw [List.map_nil, hwrite, skipBlank_append hgap rfl]
    exact readElements_end (item depth) true (List.forall_mem_nil _) rest
  | cons b bs =>
    obtain ⟨⟨hb, hread⟩, hbs⟩ := List.forall_mem_cons.1 h
    have hwrite : (Value.array ((b :: bs).map toValue)).writeIn l level ++ rest =
        '[' :: (l.line (level + 1) ++ ((toValue b).writeIn l (level + 1) ++
          (l.row (level + 1) (itemsIn l (level + 1) (bs.map toValue)) ++
            (l.line level ++ ']' :: rest)))) := by
      rw [List.map_cons, Value.writeIn, itemsIn, bracketed_cons]
      simp
    rw [hwrite, skipBlank_append hgap rfl]
    exact readElements_cons hb hread (nextElement?_first (l.isGap_line (level + 1))) l (level + 1)
      (readElements_row hbs l (level + 1) (l.isGap_line level) rest)

/-- A written array is refused if no level of nesting is left for it. -/
theorem reads_readList_zero (item : Nat → Reader α) (xs : List Value) :
    Reads (readList 0 item) (.array xs) (.error .malformed) := by
  intro l level gap rest hgap
  obtain ⟨text, hwrite⟩ : ∃ text, (Value.array xs).writeIn l level = '[' :: text := by
    rw [Value.writeIn]
    exact exists_bracketed_eq_cons l level '[' ']' _
  unfold readList
  rw [hwrite, List.cons_append, skipBlank_append hgap rfl]
  rfl

/-! ## Members -/

/-- What the reader of members makes of a member with the given name and value, behind the name. -/
def ReadsMember (member : σ → String → Reader σ) (state : σ) (m : String × Value)
    (result : Except Refusal σ) : Prop :=
  ∀ (l : Layout) (level : Nat) (rest : List Char),
    member state m.1 (':' :: (l.space ++ (m.2.writeIn l level ++ rest))) = result.map (·, rest)

/-- The name of the first member of an object is found behind blanks. -/
theorem nextName?_first {gap text : List Char} (hgap : IsGap gap) :
    nextName? true (gap ++ '"' :: text) = .ok (some text) := by
  unfold nextName?
  rw [skipBlank_append hgap rfl]
  rfl

/-- The name of the next member of an object is found behind a comma and blanks. -/
theorem nextName?_comma {gap text : List Char} (hgap : IsGap gap) :
    nextName? false (',' :: (gap ++ '"' :: text)) = .ok (some text) := by
  have hcomma : skipBlank (',' :: (gap ++ '"' :: text)) = ',' :: (gap ++ '"' :: text) := rfl
  unfold nextName?
  simp only [hcomma, skipBlank_append hgap (c := '"') rfl]
  rfl

/-- Behind its last member an object ends. -/
theorem readMembers_end {ν : Type} (name : Reader ν) (member : σ → ν → Reader σ) (state : σ)
    (first : Bool) {gap : List Char} (hgap : IsGap gap) (rest : List Char) :
    readMembers name member state first (gap ++ '\x7d' :: rest) = .ok (state, rest) := by
  have hend : nextName? first (gap ++ '\x7d' :: rest) = .ok none := by
    unfold nextName?
    rw [skipBlank_append hgap rfl]
    rfl
  rw [readMembers]
  simp only [hend]
  rw [skipBlank_append hgap rfl]
  rfl

/-- One member is read, and then the others. `front` is what stands in front of it: blanks, behind
a comma unless it is the first. -/
theorem readMembers_cons {member : σ → String → Reader σ} {state : σ} {m : String × Value}
    {result : Except Refusal σ} (h : ReadsMember member state m result) {first : Bool}
    {front : List Char}
    (hfront : ∀ {text : List Char}, nextName? first (front ++ '"' :: text) = .ok (some text))
    (l : Layout) (level : Nat) (more : List Char) :
    readMembers readString member state first
        (front ++ (writeString m.1 ++ ':' :: (l.space ++ (m.2.writeIn l level ++ more)))) =
      result.bind fun state => readMembers readString member state false more := by
  have hname := readString_writeChar m.1 (':' :: (l.space ++ (m.2.writeIn l level ++ more)))
  have hmember := h l level more
  -- The text behind the name takes part in both facts; its form matters only for its length.
  generalize htext : ':' :: (l.space ++ (m.2.writeIn l level ++ more)) = text at hname hmember ⊢
  have hwrite : writeString m.1 ++ text =
      '"' :: (m.1.toList.flatMap writeChar ++ '"' :: text) := by
    rw [writeString, List.cons_append, List.append_assoc, List.singleton_append]
  have hlt : more.length <
      (front ++ '"' :: (m.1.toList.flatMap writeChar ++ '"' :: text)).length := by
    rw [← htext]
    simp only [List.length_append, List.length_cons]
    omega
  rw [hwrite, readMembers]
  simp only [hfront, hname, hmember]
  cases result with
  | error e => rfl
  | ok state => simp only [Except.map, hlt, if_true, Except.bind]

/-- The value of a member is read behind the colon, if no member of that name was read before. -/
theorem readOnce_none {item : Reader α} {x : Value} {result : Except Refusal α}
    (h : Reads item x result) (name : String) (l : Layout) (level : Nat) (rest : List Char) :
    readOnce name none item (':' :: (l.space ++ (x.writeIn l level ++ rest))) =
      (result.map some).map (·, rest) := by
  have hcolon : ∀ text, colon (':' :: text) = .ok text := fun _ => rfl
  have hitem := h l level l.space rest l.isGap_space
  unfold readOnce
  simp only [hcolon, bind, Except.bind, hitem]
  cases result <;> rfl

/-- An object with members is its bracket, the first member, the others in a row, and the closing
bracket. -/
theorem writeIn_object_cons (l : Layout) (level : Nat) (m : String × Value)
    (ms : List (String × Value)) (rest : List Char) :
    (Value.object (m :: ms)).writeIn l level ++ rest =
      '\x7b' :: (l.line (level + 1) ++ (writeString m.1 ++ ':' :: (l.space ++
        (m.2.writeIn l (level + 1) ++ (l.row (level + 1) (membersIn l (level + 1) ms) ++
          (l.line level ++ '\x7d' :: rest)))))) := by
  rw [Value.writeIn, membersIn, bracketed_cons]
  simp

/-- A row of members starts with the first of them. -/
theorem row_membersIn_cons (l : Layout) (level : Nat) (m : String × Value)
    (ms : List (String × Value)) (more : List Char) :
    l.row level (membersIn l level (m :: ms)) ++ more =
      (',' :: l.line level) ++ (writeString m.1 ++ ':' :: (l.space ++
        (m.2.writeIn l level ++ (l.row level (membersIn l level ms) ++ more)))) := by
  simp [membersIn, Layout.row]

/-- What the reader of members makes of the given members behind another one, up to the end of the
object. -/
def ReadsMembers (member : σ → String → Reader σ) (state : σ) (ms : List (String × Value))
    (result : Except Refusal σ) : Prop :=
  ∀ (l : Layout) (level : Nat) (gap rest : List Char), IsGap gap →
    readMembers readString member state false
      (l.row level (membersIn l level ms) ++ (gap ++ '\x7d' :: rest)) = result.map (·, rest)

/-- Without further members nothing changes. -/
theorem readsMembers_nil (member : σ → String → Reader σ) (state : σ) :
    ReadsMembers member state [] (.ok state) := by
  intro l level gap rest hgap
  exact readMembers_end readString member state false hgap rest

/-- A member is read, and then those behind it with what was read so far. -/
theorem ReadsMember.cons {member : σ → String → Reader σ} {state : σ} {m : String × Value}
    {ms : List (String × Value)} {result : Except Refusal σ} {next : σ → Except Refusal σ}
    (h : ReadsMember member state m result)
    (hms : ∀ state, result = .ok state → ReadsMembers member state ms (next state)) :
    ReadsMembers member state (m :: ms) (result.bind next) := by
  intro l level gap rest hgap
  rw [row_membersIn_cons, readMembers_cons h (nextName?_comma (l.isGap_line level))]
  cases result with
  | error e => rfl
  | ok state => exact hms state rfl l level gap rest hgap

/-- The members of an object are read behind its bracket, the first of them first. -/
theorem ReadsMember.object {member : σ → String → Reader σ} {state : σ} {m : String × Value}
    {ms : List (String × Value)} {result : Except Refusal σ} {next : σ → Except Refusal σ}
    (h : ReadsMember member state m result)
    (hms : ∀ state, result = .ok state → ReadsMembers member state ms (next state))
    (l : Layout) (level : Nat) (rest : List Char) :
    ∃ text, (Value.object (m :: ms)).writeIn l level ++ rest = '\x7b' :: text ∧
      readMembers readString member state true text = (result.bind next).map (·, rest) := by
  refine ⟨_, writeIn_object_cons l level m ms rest, ?_⟩
  rw [readMembers_cons h (nextName?_first (l.isGap_line (level + 1)))]
  cases result with
  | error e => rfl
  | ok state => exact hms state rfl l (level + 1) (l.line level) rest (l.isGap_line level)

/-! ## Texts -/

/-- A text of a written value and blanks around it is read as the value is. -/
theorem Reads.document {item : Reader α} {x : Value} {result : Except Refusal α}
    (h : Reads item x result) (l : Layout) {before after : List Char} (hbefore : IsGap before)
    (hafter : IsGap after) :
    readDocument item (.ofList (before ++ (x.writeIn l 0 ++ after))) = result := by
  have hend : skipBlank after = [] := List.dropWhile_eq_nil_iff.2 hafter
  unfold readDocument
  rw [String.toList_ofList, h l 0 before after hbefore]
  cases result with
  | error e => rfl
  | ok x =>
    simp only [Except.map, bind, Except.bind, hend]

/-! ## What holds of everything read -/

/-- What follows from a result that was read, was read from a result. -/
theorem exists_of_bind_eq_ok {ε : Type} {x : Except ε α} {f : α → Except ε β} {b : β}
    (h : x >>= f = .ok b) : ∃ a, x = .ok a ∧ f a = .ok b := by
  cases x with
  | error e => contradiction
  | ok a => exact ⟨a, rfl, h⟩

/-- An array is read behind its bracket, with one level of nesting less. -/
theorem exists_of_readList {depth : Nat} {item : Nat → Reader α} {text : List Char} {xs : List α}
    {rest : List Char} (h : readList depth item text = .ok (xs, rest)) :
    ∃ left behind, depth = left + 1 ∧
      readElements (item left) true behind = .ok (xs, rest) := by
  unfold readList at h
  split at h
  · next behind _ =>
    cases depth with
    | zero => contradiction
    | succ left => exact ⟨left, behind, rfl, h⟩
  · contradiction

/-- What is kept of a member is what its value was read as. -/
theorem exists_of_readOnce {name : String} {slot slot' : Option α} {item : Reader α}
    {text rest : List Char} (h : readOnce name slot item text = .ok (slot', rest)) :
    ∃ x behind, item behind = .ok (x, rest) ∧ slot' = some x := by
  cases slot with
  | some x => contradiction
  | none =>
    obtain ⟨behind, -, h⟩ := exists_of_bind_eq_ok h
    obtain ⟨⟨x, rest'⟩, hitem, h⟩ := exists_of_bind_eq_ok h
    cases h
    exact ⟨x, behind, hitem, rfl⟩

/-- An element that may be missing is read from some text if it is not. -/
theorem forall_of_readElement? {item : Reader α} {P : α → Prop}
    (hitem : ∀ text x rest, item text = .ok (x, rest) → P x) {first : Bool} {text : List Char}
    {x : α} {rest : List Char} (h : readElement? first item text = .ok (some x, rest)) : P x := by
  obtain ⟨_ | start, -, h⟩ := exists_of_bind_eq_ok h
  · cases h
  · obtain ⟨_, hread, h⟩ := exists_of_bind_eq_ok h
    cases h
    exact hitem start _ _ hread

/-- What holds of each element that a text can be read as holds of all elements of an array. -/
theorem forall_of_readElements {item : Reader α} {P : α → Prop}
    (hitem : ∀ text x rest, item text = .ok (x, rest) → P x) {first : Bool} {text : List Char}
    {xs : List α} {rest : List Char} (h : readElements item first text = .ok (xs, rest)) :
    ∀ x ∈ xs, P x := by
  fun_induction readElements item first text generalizing xs rest with
  | case1 | case3 | case5 => contradiction
  | case2 =>
    obtain ⟨rfl, -⟩ := Prod.mk.inj (Except.ok.inj h)
    exact List.forall_mem_nil _
  | case4 first text start hnext x after hread hlt ih =>
    cases hmore : readElements item false after with
    | error e =>
      rw [hmore] at h
      contradiction
    | ok more =>
      rw [hmore] at h
      obtain ⟨rfl, -⟩ := Prod.mk.inj (Except.ok.inj h)
      exact List.forall_mem_cons.2 ⟨hitem start x after hread, ih hmore⟩

/-- What every member keeps holds behind all members of an object. -/
theorem readMembers_invariant {ν : Type} {name : Reader ν} {member : σ → ν → Reader σ}
    {P : σ → Prop} (hmember : ∀ state n text state' rest, P state →
      member state n text = .ok (state', rest) → P state')
    {state : σ} (hstate : P state) {first : Bool} {text : List Char} {state' : σ}
    {rest : List Char} (h : readMembers name member state first text = .ok (state', rest)) :
    P state' := by
  fun_induction readMembers name member state first text with
  | case1 | case3 | case4 | case6 => contradiction
  | case2 =>
    obtain ⟨rfl, -⟩ := Prod.mk.inj (Except.ok.inj h)
    exact hstate
  | case5 state first text start hnext n rest hname state' rest' hread hlt ih =>
    exact ih (hmember _ _ _ _ _ hstate hread) h

end RequiredFields.Json
