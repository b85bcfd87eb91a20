import RequiredFields.Condition.Json
import RequiredFields.Proofs.Json.Skipping

/-!
# The texts of a condition

`Condition.Spells` says which JSON texts stand for a condition: an object with the members of the
condition in any order and among any others, where what the condition lacks may be missing, and an
array of its three parts, where an empty list of values may be missing. What is written for a
condition is such a text, and the reader of conditions takes each of them for the condition
(`Condition.ofJson_spells`). An object is read member by member: what was kept so far is what the
condition has under the names that were met (`Condition.drafted`).
-/

namespace RequiredFields

open Json
open Json.Value (withCommas)

/-! ## Operators -/

namespace Operator

/-- The texts of an operator: its name, or an object with the name and `null`. -/
inductive Spells (op : Operator) : List Char → Prop where
  /-- The name. -/
  | name {text : List Char} (h : Quotes op.name text) : Spells op text
  /-- An object. -/
  | object {name value text : List Char} (hname : Padded (Quotes op.name) name)
    (hvalue : Padded (· = ['n', 'u', 'l', 'l']) value)
    (htext : IsEnclosed '\x7b' '\x7d' [memberText (name, value)] text) : Spells op text

/-- The name of an operator is read behind its first mark. -/
theorem readName_of_spells {op : Operator} {text : List Char} (h : Json.Spells op.name.toList text)
    (rest : List Char) : readName (text ++ '"' :: rest) = .ok (op, rest) := by
  unfold readName
  simp only [readString_of_spells h, bind, Except.bind, ofName?_name]

/-- The object form of an operator is read part by part. -/
theorem read_object {op : Operator} {body : List Char} (hbody : Json.Spells op.name.toList body)
    {first behind colonGap last : List Char} (hfirst : IsGap first) (hbehind : IsGap behind)
    (hcolonGap : IsGap colonGap) (hlast : IsGap last) (depth : Nat) (rest : List Char) :
    read (depth + 1) ('\x7b' :: (first ++ '"' :: (body ++ '"' :: (behind ++ ':' ::
        (colonGap ++ 'n' :: 'u' :: 'l' :: 'l' :: (last ++ '\x7d' :: rest)))))) =
      .ok (op, rest) := by
  have hname := readName_of_spells hbody (behind ++ ':' ::
    (colonGap ++ 'n' :: 'u' :: 'l' :: 'l' :: (last ++ '\x7d' :: rest)))
  have hcolon := colon_gap hbehind
    (colonGap ++ 'n' :: 'u' :: 'l' :: 'l' :: (last ++ '\x7d' :: rest))
  have hunit : readUnit (colonGap ++ 'n' :: 'u' :: 'l' :: 'l' :: (last ++ '\x7d' :: rest)) =
      .ok ((), last ++ '\x7d' :: rest) := by
    unfold readUnit
    rw [skipBlank_append hcolonGap rfl]
    rfl
  have hopen : ∀ text, skipBlank ('\x7b' :: text) = '\x7b' :: text := fun _ => rfl
  unfold read
  simp only [hopen, skipBlank_append (c := '"') hfirst rfl, hname, hcolon, hunit,
    skipBlank_append (c := '\x7d') hlast rfl, bind, Except.bind, Nat.add_one_ne_zero, if_false]

/-- A text of an operator is taken for it, if a level of nesting is left. -/
theorem takes_read {op : Operator} {text : List Char} (h : op.Spells text) (depth : Nat) :
    Takes (read (depth + 1)) text op := by
  cases h with
  | name h =>
    obtain ⟨body, hbody, rfl⟩ := h
    refine takes_of_eq (startsElement_mark (.inl rfl)) fun rest _ => ?_
    rw [List.append_assoc]
    exact readName_of_spells hbody rest
  | object hname hvalue htext =>
    obtain ⟨first, last, hfirst, hlast, rfl⟩ := htext
    obtain ⟨first', _, behind, hfirst', hbehind, ⟨body, hbody, rfl⟩, rfl⟩ := hname
    obtain ⟨colonGap, _, last', hcolonGap, hlast', rfl, rfl⟩ := hvalue
    refine takes_of_eq (startsElement_mark (.inr (.inr rfl))) fun rest _ => ?_
    have hread := read_object hbody (List.forall_mem_append.2 ⟨hfirst, hfirst'⟩) hbehind hcolonGap
      (List.forall_mem_append.2 ⟨hlast', hlast⟩) depth rest
    simpa [memberText, withCommas] using hread

/-- No text of an operator starts like the word `null`. -/
theorem Spells.startsUnlikeNull {op : Operator} {text : List Char} (h : op.Spells text) :
    StartsUnlikeNull text := by
  cases h with
  | name h =>
    obtain ⟨body, -, rfl⟩ := h
    exact ⟨_, _, rfl, rfl, by decide⟩
  | object _ _ htext =>
    obtain ⟨before, after, -, -, rfl⟩ := htext
    exact ⟨_, _, rfl, rfl, by decide⟩

end Operator

/-! ## Conditions -/

namespace Condition

/-- The names of the members of a condition. -/
def memberNames : List String := ["target", "operator", "values"]

/-- The texts of members: under each name of a condition what the condition has there, under other
names any value. -/
inductive SpellsMember (c : Condition) : String → List Char → Prop where
  /-- The target, or `null`. -/
  | target {text : List Char} (h : Padded (OrNull Quotes c.target) text) :
    SpellsMember c "target" text
  /-- The operator, or `null`. -/
  | operator {text : List Char} (h : Padded (OrNull Operator.Spells c.operator) text) :
    SpellsMember c "operator" text
  /-- The values. -/
  | values {text : List Char} (h : Padded (IsListOf Quotes c.values) text) :
    SpellsMember c "values" text
  /-- A member that nobody asks for. -/
  | other {name : String} {text : List Char} (hname : name ∉ memberNames) (h : IsValue text) :
    SpellsMember c name text

/-- The texts of a condition. -/
inductive Spells (c : Condition) : List Char → Prop where
  /-- An object: each member a name and a text. No name of a condition is there twice, and what is
  there under none is empty. -/
  | object {members : List (String × List Char × List Char)} {text : List Char}
    (hnames : ∀ m ∈ members, Padded (Quotes m.1) m.2.1)
    (hvalues : ∀ m ∈ members, c.SpellsMember m.1 m.2.2)
    (honce : ∀ name ∈ memberNames, (members.map Prod.fst).count name ≤ 1)
    (htarget : "target" ∉ members.map Prod.fst → c.target = none)
    (hoperator : "operator" ∉ members.map Prod.fst → c.operator = none)
    (hempty : "values" ∉ members.map Prod.fst → c.values = [])
    (htext : IsEnclosed '\x7b' '\x7d' (members.map fun m => memberText m.2) text) : Spells c text
  /-- An array of the three parts. -/
  | array {target operator values text : List Char}
    (htarget : Padded (OrNull Quotes c.target) target)
    (hoperator : Padded (OrNull Operator.Spells c.operator) operator)
    (hvalues : Padded (IsListOf Quotes c.values) values)
    (htext : IsEnclosed '[' ']' [target, operator, values] text) : Spells c text
  /-- An array without the values, if there are none. -/
  | short {target operator text : List Char} (htarget : Padded (OrNull Quotes c.target) target)
    (hoperator : Padded (OrNull Operator.Spells c.operator) operator) (hempty : c.values = [])
    (htext : IsEnclosed '[' ']' [target, operator] text) : Spells c text

variable {c : Condition} {depth : Nat}

/-- A text for the target is taken for it. -/
theorem takes_target {text : List Char} (h : Padded (OrNull Quotes c.target) text) :
    Takes (readOptional readText) text c.target :=
  takes_of_padded (fun _ => takes_readOptional takes_readText Quotes.startsUnlikeNull)
    (skipsBlanks_readOptional _) h

/-- A text for the operator is taken for it. -/
theorem takes_operator {text : List Char} (h : Padded (OrNull Operator.Spells c.operator) text)
    (depth : Nat) :
    Takes (readOptional (Operator.read (depth + 1))) text c.operator :=
  takes_of_padded (fun _ => takes_readOptional (Operator.takes_read · depth)
    Operator.Spells.startsUnlikeNull) (skipsBlanks_readOptional _) h

/-- A text for the values is taken for them. -/
theorem takes_values {text : List Char} (h : Padded (IsListOf Quotes c.values) text)
    (depth : Nat) :
    Takes (readList (depth + 1) fun _ => readText) text c.values :=
  takes_of_padded (fun _ h => takes_readList h depth) (skipsBlanks_readList _ _) h

/-- What is kept of the condition once the given names were met. -/
def drafted (c : Condition) (names : List String) : Draft where
  target := if "target" ∈ names then some c.target else none
  operator := if "operator" ∈ names then some c.operator else none
  values := if "values" ∈ names then some c.values else none

/-- A member is taken behind those before it, if none of them has its name. -/
theorem takesMember_readMember {name : String} {nameText value : List Char}
    (hname : Padded (Quotes name) nameText) (hvalue : c.SpellsMember name value)
    {names : List String} (hnew : name ∈ memberNames → name ∉ names) :
    TakesMember readString (readMember (depth + 1)) (c.drafted names)
      (memberText (nameText, value)) (c.drafted (name :: names)) := by
  obtain ⟨before, _, after, hbefore, hafter, ⟨body, hbody, rfl⟩, rfl⟩ := hname
  have hread := readString_of_spells hbody
  cases hvalue with
  | target h =>
    refine takesMember_of_takes hbefore hafter hread (takes_target h) ?_
    intro text behind rest hcolon hitem
    have hfree : "target" ∉ names := hnew (by decide)
    simp [readMember, readOnce, drafted, hfree, hcolon, hitem, bind, Except.bind]
  | operator h =>
    refine takesMember_of_takes hbefore hafter hread (takes_operator h depth) ?_
    intro text behind rest hcolon hitem
    have hfree : "operator" ∉ names := hnew (by decide)
    simp [readMember, readOnce, drafted, hfree, hcolon, hitem, bind, Except.bind]
  | values h =>
    refine takesMember_of_takes hbefore hafter hread (takes_values h depth) ?_
    intro text behind rest hcolon hitem
    have hfree : "values" ∉ names := hnew (by decide)
    simp [readMember, readOnce, drafted, hfree, hcolon, hitem, bind, Except.bind]
  | other hother h =>
    refine takesMember_of_takes hbefore hafter hread (takes_skipValue h) ?_
    intro text behind rest hcolon hitem
    obtain ⟨htarget, hoperator, hvalues⟩ : name ≠ "target" ∧ name ≠ "operator" ∧
        name ≠ "values" := by simpa [memberNames] using hother
    simp [readMember, skipMember, drafted, htarget, hoperator, hvalues, hcolon, hitem, bind,
      Except.bind, htarget.symm, hoperator.symm, hvalues.symm]

/-- The members are taken one after the other, if no name of a condition is there twice. -/
theorem takesMembers_readMember {members : List (String × List Char × List Char)}
    (hnames : ∀ m ∈ members, Padded (Quotes m.1) m.2.1)
    (hvalues : ∀ m ∈ members, c.SpellsMember m.1 m.2.2) (names : List String)
    (honce : ∀ name ∈ memberNames, (members.map Prod.fst ++ names).count name ≤ 1) :
    TakesMembers readString (readMember (depth + 1)) (c.drafted names)
      (members.map fun m => memberText m.2)
      (c.drafted ((members.map Prod.fst).reverse ++ names)) := by
  -- Names met and names to come are counted together, so that the step can move one over.
  induction members generalizing names with
  | nil => exact .nil _
  | cons m members ih =>
    obtain ⟨hname, hnames⟩ := List.forall_mem_cons.1 hnames
    obtain ⟨hvalue, hvalues⟩ := List.forall_mem_cons.1 hvalues
    have hnew : m.1 ∈ memberNames → m.1 ∉ names := by
      intro hm hmem
      have hcount := honce m.1 hm
      have hpos := List.count_pos_iff.2 hmem
      simp only [List.map_cons, List.cons_append, List.count_cons_self, List.count_append] at hcount
      omega
    have hmore : ∀ name ∈ memberNames,
        (members.map Prod.fst ++ m.1 :: names).count name ≤ 1 := by
      intro name hname
      have hcount := honce name hname
      simp only [List.map_cons, List.cons_append, List.count_cons, List.count_append] at hcount ⊢
      omega
    have hrest := ih hnames hvalues (m.1 :: names) hmore
    rw [List.map_cons, List.map_cons, List.reverse_cons, List.append_assoc,
      List.singleton_append]
    exact .cons (takesMember_readMember hname hvalue hnew) hrest

/-- An object is read as the condition. -/
theorem readMembers_eq {members : List (String × List Char × List Char)}
    (hnames : ∀ m ∈ members, Padded (Quotes m.1) m.2.1)
    (hvalues : ∀ m ∈ members, c.SpellsMember m.1 m.2.2)
    (honce : ∀ name ∈ memberNames, (members.map Prod.fst).count name ≤ 1)
    {before after : List Char} (hbefore : IsGap before) (hafter : IsGap after) (depth : Nat)
    (rest : List Char) :
    readMembers readString (readMember (depth + 1)) {} true
        (before ++ (withCommas (members.map fun m => memberText m.2) ++ (after ++ ['\x7d'])) ++
          rest) = .ok (c.drafted (members.map Prod.fst).reverse, rest) := by
  have htakes : TakesMembers readString (readMember (depth + 1)) {} _ _ :=
    takesMembers_readMember hnames hvalues [] (by simpa using honce)
  rw [List.append_nil] at htakes
  exact htakes.readMembers_enclosed hbefore hafter rest

/-- What is kept of the condition is the condition, if it is empty under the names not met. -/
theorem drafted_eq (c : Condition) (names : List String)
    (htarget : "target" ∉ names → c.target = none)
    (hoperator : "operator" ∉ names → c.operator = none)
    (hempty : "values" ∉ names → c.values = []) :
    (⟨(c.drafted names).target.join, (c.drafted names).operator.join,
      (c.drafted names).values.getD []⟩ : Condition) = c := by
  obtain ⟨target, operator, values⟩ := c
  simp only [drafted, mk.injEq]
  refine ⟨?_, ?_, ?_⟩
  · split
    · rfl
    · exact (htarget ‹_›).symm
  · split
    · rfl
    · exact (hoperator ‹_›).symm
  · split
    · rfl
    · exact (hempty ‹_›).symm

/-- An array is read as the condition, whatever stands for the values behind the other two parts. -/
theorem readArray_eq {target operator : List Char}
    (htarget : Padded (OrNull Quotes c.target) target)
    (hoperator : Padded (OrNull Operator.Spells c.operator) operator) {parts : List (List Char)}
    {before after rest : List Char} (hbefore : IsGap before) (hafter : IsGap after)
    (values : Option (List String))
    (hvalues : ∀ {gap : List Char}, IsGap gap → ∃ gap', IsGap gap' ∧
      readElement? false (readList (depth + 1) fun _ => readText)
        (gap ++ behindPart parts after ']' rest) = .ok (values, gap' ++ ']' :: rest)) :
    readArray (depth + 1) (before ++ (target ++ behindPart (operator :: parts) after ']' rest)) =
      .ok (⟨c.target, c.operator, values.getD []⟩, rest) := by
  obtain ⟨gap, hgap, hread⟩ := (takes_target htarget).readElement? (skipsBlanks_readOptional _)
    (leadsToElement_gap hbefore) (endsNumber_behindPart (operator :: parts) hafter (.inl rfl) rest)
  obtain ⟨gap', hgap', hread'⟩ := (takes_operator hoperator depth).readElement?_behindPart
    (skipsBlanks_readOptional _) parts hgap hafter rest
  obtain ⟨gap'', hgap'', hread''⟩ := hvalues hgap'
  unfold readArray
  simp only [hread, hread', hread'', closeArray_gap hgap'', bind, Except.bind]

/-- A text of a condition is taken for it. -/
theorem takes_read {text : List Char} (h : c.Spells text) (depth : Nat) :
    Takes (read (depth + 2)) text c := by
  cases h with
  | @object members _ hnames hvalues honce htarget hoperator hempty htext =>
    obtain ⟨before, after, hbefore, hafter, rfl⟩ := htext
    refine takes_of_eq (startsElement_mark (.inr (.inr rfl))) fun rest _ => ?_
    have hread := readMembers_eq hnames hvalues honce hbefore hafter depth rest
    have hdraft := c.drafted_eq (members.map Prod.fst).reverse (by simpa using htarget)
      (by simpa using hoperator) (by simpa using hempty)
    show (readMembers readString (readMember (depth + 1)) {} true _ >>= _) = _
    rw [hread]
    exact congrArg (fun c => Except.ok (c, rest)) hdraft
  | @array target operator values _ htarget hoperator hvalues htext =>
    obtain ⟨before, after, hbefore, hafter, rfl⟩ := htext
    refine takes_of_eq (startsElement_mark (.inr (.inl rfl))) fun rest _ => ?_
    rw [enclosed_cons]
    refine readArray_eq htarget hoperator hbefore hafter (some c.values) fun hgap => ?_
    obtain ⟨gap, hgap', hread⟩ := (takes_values hvalues depth).readElement?_behindPart
      (skipsBlanks_readList _ _) [] hgap hafter rest
    exact ⟨gap ++ after, List.forall_mem_append.2 ⟨hgap', hafter⟩,
      by simpa [behindPart] using hread⟩
  | @short target operator _ htarget hoperator hempty htext =>
    obtain ⟨before, after, hbefore, hafter, rfl⟩ := htext
    refine takes_of_eq (startsElement_mark (.inr (.inl rfl))) fun rest _ => ?_
    rw [enclosed_cons]
    have hc : (⟨c.target, c.operator, []⟩ : Condition) = c := by rw [← hempty]
    rw [← hc]
    refine readArray_eq htarget hoperator hbefore hafter none fun {gap} hgap => ?_
    have hgap' := List.forall_mem_append.2 ⟨hgap, hafter⟩
    have hend := readElement?_end (readList (depth + 1) fun _ => readText) hgap' rest
    exact ⟨gap ++ after, hgap', by simpa [behindPart] using hend⟩

/-- The reader of conditions looks behind blanks. -/
theorem skipsBlanks_read (depth : Nat) : SkipsBlanks (read depth) := by
  intro text
  unfold read
  rw [skipBlank_skipBlank]

/-! ## What is written -/

/-- What is written for an optional operator stands for it. -/
theorem orNull_writeIn_operator (op : Option Operator) (l : Layout) (level : Nat) :
    OrNull Operator.Spells op ((op.elim .null Operator.toJson).writeIn l level) := by
  cases op with
  | none =>
    show Value.null.writeIn l level = ['n', 'u', 'l', 'l']
    rw [Value.writeIn]
  | some op => exact .name (quotes_writeString op.name)

/-- The members that are written for a condition. -/
def jsonMembers (c : Condition) : List (String × Value) :=
  [("target", .ofOption c.target), ("operator", c.operator.elim .null Operator.toJson),
    ("values", .array (c.values.map .string))]

/-- They are what is written. -/
theorem toJson_eq (c : Condition) : c.toJson = .object c.jsonMembers := by
  obtain ⟨target, _ | op, values⟩ := c <;> rfl

/-- What is written for a condition is one of its texts. -/
theorem spells_toJson (c : Condition) (l : Layout) (level : Nat) :
    c.Spells (c.toJson.writeIn l level) := by
  have hline := l.isGap_line (level + 1)
  have hspace := l.isGap_space
  let texts (m : String × Value) : List Char × List Char :=
    (l.line (level + 1) ++ Value.writeString m.1, l.space ++ m.2.writeIn l (level + 1))
  have hnames : (c.jsonMembers.map fun m => (m.1, texts m)).map Prod.fst = memberNames := rfl
  have htext := isEnclosed_writeIn_object l level c.jsonMembers
  have hmissing : ∀ name ∈ memberNames, ∀ p : Prop,
      name ∉ (c.jsonMembers.map fun m => (m.1, texts m)).map Prod.fst → p :=
    fun name hname p h => absurd (hnames ▸ hname) h
  rw [← toJson_eq] at htext
  refine .object ?_ ?_ ?_ (hmissing _ (by decide) _) (hmissing _ (by decide) _)
    (hmissing _ (by decide) _) (List.map_map ▸ htext)
  · simp only [List.forall_mem_map]
    exact fun m _ => padded_gap_append hline (quotes_writeString m.1)
  · simp only [List.forall_mem_map, jsonMembers, List.forall_mem_cons]
    refine ⟨.target ?_, .operator ?_, .values ?_, List.forall_mem_nil _⟩
    · exact padded_gap_append hspace (orNull_writeIn_ofOption c.target l _)
    · exact padded_gap_append hspace (orNull_writeIn_operator c.operator l _)
    · exact padded_gap_append hspace (isListOf_writeIn_array c.values l _)
  · rw [hnames]
    decide

/-- What is written for a condition, in one line or in several, is read back as the condition, and
so is every other text of it: an object with its members in any order and among others, without
those that it lacks or with `null` for them, and an array that may lack an empty list at its end. -/
theorem ofJson_spells (c : Condition) :
    ofJson c.toJson.compact = .ok c ∧ ofJson c.toJson.pretty = .ok c ∧
      (∀ l level, c.Spells (c.toJson.writeIn l level)) ∧
      ∀ text, Padded c.Spells text → ofJson (.ofList text) = .ok c := by
  have hread : ∀ text, Padded c.Spells text → ofJson (.ofList text) = .ok c := by
    intro text htext
    have htakes : Takes (read maxDepth) text c :=
      takes_of_padded (fun _ h => takes_read h 125) (skipsBlanks_read maxDepth) htext
    exact htakes.readDocument
  have hwritten : ∀ l level, ofJson (.ofList (c.toJson.writeIn l level)) = .ok c :=
    fun l level => hread _ (padded_gap_append (List.forall_mem_nil _) (c.spells_toJson l level))
  refine ⟨?_, ?_, c.spells_toJson, hread⟩
  · rw [Value.compact, Value.write_eq_writeIn 0]
    exact hwritten .compact 0
  · rw [Value.pretty, Value.writeLines_eq_writeIn 0]
    exact hwritten .pretty 0

/-- A text with the values first, spelled by number, behind a member that nobody asks for and that
could not be kept. The target is `null`, and there is no operator. -/
theorem ofJson_spells_numbers :
    let c : Condition := ⟨none, none, ["é😀"]⟩
    let text :=
      "\x7b\"x\":[1e999,\"\\ud800\"], \"values\":[\"\\u00e9\\ud83d\\ude00\"],\"target\":null\x7d"
    Padded c.Spells text.toList ∧ ofJson text = .ok c := by
  intro c text
  have hno : IsGap [] := List.forall_mem_nil _
  have hspace : IsGap [' '] := List.forall_mem_singleton.2 rfl
  have hnumber : IsValue "1e999".toList := by
    refine .number ⟨{ whole := ['1'], scale := some { digits := ['9', '9', '9'] } }, ?_⟩
    decide
  have hhalf : IsValue "\"\\ud800\"".toList := by
    have hex : IsHex 0xD800 ['d', '8', '0', '0'] := isHex_of_hexNumber (by decide)
    exact .string ⟨_, .number hex .nil, rfl⟩
  have hother : IsValue "[1e999,\"\\ud800\"]".toList := by
    have htext : IsEnclosed '[' ']' ["1e999".toList, "\"\\ud800\"".toList]
        "[1e999,\"\\ud800\"]".toList := ⟨[], [], hno, hno, by decide⟩
    exact .array (by simpa using ⟨hnumber, hhalf⟩) htext
  have hquotes : Quotes "é😀" "\"\\u00e9\\ud83d\\ude00\"".toList := by
    have hfirst : IsHex 'é'.toNat ['0', '0', 'e', '9'] := isHex_of_hexNumber (by decide)
    have hhigh : IsHex (0xD800 + ('😀'.toNat - 0x10000) / 0x400) ['d', '8', '3', 'd'] :=
      isHex_of_hexNumber (by decide)
    have hlow : IsHex (0xDC00 + ('😀'.toNat - 0x10000) % 0x400) ['d', 'e', '0', '0'] :=
      isHex_of_hexNumber (by decide)
    exact ⟨_, .cons (.number hfirst) (.cons (.pair (by decide) hhigh hlow) .nil), by decide⟩
  have hvalues : IsListOf Quotes c.values "[\"\\u00e9\\ud83d\\ude00\"]".toList :=
    ⟨["\"\\u00e9\\ud83d\\ude00\"".toList], .cons (padded_gap_append hno hquotes) .nil, [], [], hno,
      hno, by decide⟩
  have htext : c.Spells text.toList := by
    let members : List (String × List Char × List Char) :=
      [("x", Value.writeString "x", "[1e999,\"\\ud800\"]".toList),
        ("values", ' ' :: Value.writeString "values", "[\"\\u00e9\\ud83d\\ude00\"]".toList),
        ("target", Value.writeString "target", "null".toList)]
    have henclosed : IsEnclosed '\x7b' '\x7d' (members.map fun m => memberText m.2) text.toList :=
      ⟨[], [], hno, hno, by decide⟩
    refine .object ?_ ?_ (by decide) (by decide) (by decide) (by decide) henclosed
    · simp only [members, List.forall_mem_cons]
      exact ⟨padded_gap_append hno (quotes_writeString "x"),
        padded_gap_append hspace (quotes_writeString "values"),
        padded_gap_append hno (quotes_writeString "target"), List.forall_mem_nil _⟩
    · simp only [members, List.forall_mem_cons]
      exact ⟨.other (by decide) hother, .values (padded_gap_append hno hvalues),
        .target (padded_gap_append hno rfl), List.forall_mem_nil _⟩
  have hpadded : Padded c.Spells text.toList := padded_gap_append hno htext
  have hread := (ofJson_spells c).2.2.2 text.toList hpadded
  rw [String.ofList_toList] at hread
  exact ⟨hpadded, hread⟩

end Condition

end RequiredFields
