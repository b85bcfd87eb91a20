import RequiredFields.Proofs.Json.Grammar
import RequiredFields.Proofs.Json.Reading

/-!
# Taking texts for values

`Takes` says that a reader takes a text, with whatever blanks it has around its parts, for a value.
The reader may leave the blanks at its end, and what comes next must not go on with a number. What
stands between brackets is taken part by part: the elements of an array one after the other
(`readElements_enclosed`), the members of an object each with what was read before it
(`TakesMembers.readMembers_enclosed`). The last section has the readers of strings, of optional
values and of lists.
-/

namespace RequiredFields.Json

open Value (withCommas)

variable {α σ ν : Type}

/-- A number that stands in front ends here. -/
def EndsNumber (rest : List Char) : Prop :=
  ∀ c text, rest = c :: text → c.isDigit = false ∧ c ≠ '.' ∧ c ≠ 'e' ∧ c ≠ 'E'

/-- Blanks end a number. -/
theorem EndsNumber.gap_append {gap rest : List Char} (hgap : IsGap gap) (h : EndsNumber rest) :
    EndsNumber (gap ++ rest) := by
  cases gap with
  | nil => exact h
  | cons c gap =>
    rintro d text heq
    obtain ⟨rfl, -⟩ := List.cons.inj heq
    have hc := hgap c List.mem_cons_self
    simp only [isBlank, Bool.or_eq_true, beq_iff_eq] at hc
    rcases hc with ((rfl | rfl) | rfl) | rfl <;> decide

/-- The marks that stand behind a value end a number. -/
theorem endsNumber_mark {c : Char} (hc : c = ',' ∨ c = ']' ∨ c = '\x7d') (rest : List Char) :
    EndsNumber (c :: rest) := by
  rintro d text heq
  obtain ⟨rfl, -⟩ := List.cons.inj heq
  rcases hc with rfl | rfl | rfl <;> decide

/-- Blanks are skipped once. -/
theorem skipBlank_skipBlank (text : List Char) : skipBlank (skipBlank text) = skipBlank text :=
  List.dropWhile_idempotent isBlank text

/-- The reader looks behind the blanks in front of it. -/
def SkipsBlanks (item : Reader α) : Prop :=
  ∀ text, item (skipBlank text) = item text

/-- The reader takes the text for the value, up to blanks at its end. -/
structure Takes (item : Reader α) (text : List Char) (x : α) : Prop where
  /-- The text may stand as an element of an array. -/
  starts : ∃ c behind, skipBlank text = c :: behind ∧ StartsElement c
  /-- The value is read, and blanks may be left. -/
  reads : ∀ rest, EndsNumber rest →
    ∃ gap, IsGap gap ∧ gap.length < text.length ∧ item (text ++ rest) = .ok (x, gap ++ rest)

/-- A text that is read to its end is taken, if an element may start like it. -/
theorem takes_of_eq {item : Reader α} {c : Char} {text : List Char} {x : α} (hc : StartsElement c)
    (h : ∀ rest, EndsNumber rest → item (c :: (text ++ rest)) = .ok (x, rest)) :
    Takes item (c :: text) x where
  starts := ⟨c, text, List.dropWhile_cons_of_neg (by simp [hc.1]), hc⟩
  reads rest hrest := ⟨[], List.forall_mem_nil _, Nat.zero_lt_succ _, h rest hrest⟩

/-- A text is the blanks that are skipped in front of it and the rest. -/
theorem exists_gap_of_skipBlank {text behind : List Char} (h : skipBlank text = behind) :
    ∃ gap, IsGap gap ∧ text = gap ++ behind :=
  ⟨text.takeWhile isBlank, fun _ hc => List.mem_takeWhile_imp hc,
    h ▸ List.takeWhile_append_dropWhile.symm⟩

/-- What is skipped in front of a text that goes on is skipped in front of the text. -/
theorem skipBlank_append_of_eq_cons {text behind : List Char} {c : Char}
    (h : skipBlank text = c :: behind) (rest : List Char) :
    skipBlank (text ++ rest) = c :: (behind ++ rest) := by
  unfold skipBlank at h ⊢
  rw [List.dropWhile_append, h]
  rfl

/-- A reader that looks behind blanks takes a text with blanks around it like the text. -/
theorem Takes.padded {item : Reader α} {inner : List Char} {x : α} (h : Takes item inner x)
    (hitem : SkipsBlanks item) {before after : List Char} (hbefore : IsGap before)
    (hafter : IsGap after) : Takes item (before ++ (inner ++ after)) x where
  starts := by
    obtain ⟨c, behind, hskip, hc⟩ := h.starts
    refine ⟨c, behind ++ after, ?_, hc⟩
    rw [skipBlank_gap_append hbefore, skipBlank_append_of_eq_cons hskip]
  reads rest hrest := by
    obtain ⟨gap, hgap, hlt, hread⟩ := h.reads (after ++ rest) (hrest.gap_append hafter)
    refine ⟨gap ++ after, List.forall_mem_append.2 ⟨hgap, hafter⟩, ?_, ?_⟩
    · simp only [List.length_append]
      omega
    · rw [List.append_assoc, List.append_assoc, ← hitem, skipBlank_gap_append hbefore, hitem, hread,
        List.append_assoc]

/-- A document that is taken up to blanks at its end is read. -/
theorem Takes.readDocument {item : Reader α} {text : List Char} {x : α} (h : Takes item text x) :
    readDocument item (.ofList text) = .ok x := by
  have hend : EndsNumber [] := by
    rintro c text heq
    contradiction
  obtain ⟨gap, hgap, -, hread⟩ := h.reads [] hend
  have hskip : skipBlank gap = [] := List.dropWhile_eq_nil_iff.2 hgap
  rw [List.append_nil, List.append_nil] at hread
  unfold Json.readDocument
  simp only [String.toList_ofList, hread, bind, Except.bind, hskip]

/-- A class of texts that are taken may have blanks around them. -/
theorem takes_of_padded {item : Reader α} {P : List Char → Prop} {x : α}
    (h : ∀ text, P text → Takes item text x) (hitem : SkipsBlanks item) {text : List Char}
    (htext : Padded P text) : Takes item text x := by
  obtain ⟨before, inner, after, hbefore, hafter, hinner, rfl⟩ := htext
  exact (h inner hinner).padded hitem hbefore hafter

/-! ## Elements -/

/-- What follows a part between brackets: the other parts behind commas, blanks, and the bracket. -/
def behindPart (parts : List (List Char)) (after : List Char) (last : Char) (rest : List Char) :
    List Char :=
  parts.flatMap (',' :: ·) ++ (after ++ last :: rest)

/-- What follows a part ends a number. -/
theorem endsNumber_behindPart (parts : List (List Char)) {after : List Char} (hafter : IsGap after)
    {last : Char} (hlast : last = ']' ∨ last = '\x7d') (rest : List Char) :
    EndsNumber (behindPart parts after last rest) := by
  cases parts with
  | nil =>
    show EndsNumber (after ++ last :: rest)
    exact (endsNumber_mark (.inr hlast) rest).gap_append hafter
  | cons part parts => exact endsNumber_mark (.inl rfl) _

/-- Behind a comma follow the next part and what follows that. -/
theorem behindPart_cons (part : List Char) (parts : List (List Char)) (after : List Char)
    (last : Char) (rest : List Char) :
    behindPart (part :: parts) after last rest =
      ',' :: (part ++ behindPart parts after last rest) := by
  simp [behindPart]

/-- The text between brackets is its first part and what follows it. -/
theorem enclosed_cons (before part : List Char) (parts : List (List Char)) (after : List Char)
    (last : Char) (rest : List Char) :
    before ++ (withCommas (part :: parts) ++ (after ++ [last])) ++ rest =
      before ++ (part ++ behindPart parts after last rest) := by
  simp [withCommas_cons, behindPart]

/-- Behind the text the next element of an array is found, with any blanks in front. -/
def LeadsToElement (first : Bool) (front : List Char) : Prop :=
  ∀ {gap : List Char} {c : Char} {text : List Char}, IsGap gap → StartsElement c →
    nextElement? first (front ++ (gap ++ c :: text)) = .ok (some (c :: text))

/-- Blanks lead to the first element. -/
theorem leadsToElement_gap {gap : List Char} (hgap : IsGap gap) : LeadsToElement true gap := by
  intro gap' c text hgap' hc
  rw [← List.append_assoc]
  exact nextElement?_first (List.forall_mem_append.2 ⟨hgap, hgap'⟩) hc

/-- Blanks and a comma lead to the next element. -/
theorem leadsToElement_comma {gap : List Char} (hgap : IsGap gap) :
    LeadsToElement false (gap ++ [',']) := by
  intro gap' c text hgap' hc
  have hnext : nextElement? false (',' :: (gap' ++ c :: text)) = .ok (some (c :: text)) :=
    nextElement?_comma hgap' hc
  unfold nextElement? at hnext ⊢
  rwa [List.append_assoc, skipBlank_gap_append hgap]

/-- An element is found and taken behind a text that leads to it. -/
theorem Takes.exists_nextElement {item : Reader α} {part : List Char} {x : α}
    (h : Takes item part x) (hitem : SkipsBlanks item) {first : Bool} {front more : List Char}
    (hfront : LeadsToElement first front) (hmore : EndsNumber more) :
    ∃ start gap, IsGap gap ∧ gap.length < part.length ∧
      nextElement? first (front ++ (part ++ more)) = .ok (some start) ∧
      item start = .ok (x, gap ++ more) := by
  obtain ⟨c, behind, hskip, hc⟩ := h.starts
  obtain ⟨gap, hgap, hlt, hread⟩ := h.reads more hmore
  have hskip' := skipBlank_append_of_eq_cons hskip more
  rw [← hitem, hskip'] at hread
  obtain ⟨gap', hgap', htext⟩ := exists_gap_of_skipBlank hskip'
  exact ⟨c :: (behind ++ more), gap, hgap, hlt, htext ▸ hfront hgap' hc, hread⟩

/-- An element is taken, and then the others. -/
theorem Takes.readElements {item : Reader α} {part : List Char} {x : α} (h : Takes item part x)
    (hitem : SkipsBlanks item) {first : Bool} {front more : List Char}
    (hfront : LeadsToElement first front) (hmore : EndsNumber more) :
    ∃ gap, IsGap gap ∧ readElements item first (front ++ (part ++ more)) =
      (readElements item false (gap ++ more)).map fun (xs, rest) => (x :: xs, rest) := by
  obtain ⟨start, gap, hgap, hlt, hnext, hread⟩ := h.exists_nextElement hitem hfront hmore
  -- The reader goes on only behind something read, and the blanks left are fewer than were there.
  have hlt' : (gap ++ more).length < (front ++ (part ++ more)).length := by
    simp only [List.length_append]
    omega
  refine ⟨gap, hgap, ?_⟩
  rw [Json.readElements]
  simp only [hnext, hread, hlt', if_true]

/-- The elements behind one are taken one after the other, up to the end of the array. -/
theorem readElements_behindPart {item : Reader α} (hitem : SkipsBlanks item)
    {parts : List (List Char)} {xs : List α} (h : List.Forall₂ (Takes item) parts xs)
    {gap after : List Char} (hgap : IsGap gap) (hafter : IsGap after) (rest : List Char) :
    readElements item false (gap ++ behindPart parts after ']' rest) = .ok (xs, rest) := by
  induction h generalizing gap with
  | nil =>
    have hend := readElements_end item false (List.forall_mem_append.2 ⟨hgap, hafter⟩) rest
    rwa [List.append_assoc] at hend
  | @cons part x parts xs hpart _ ih =>
    obtain ⟨gap', hgap', hread⟩ := hpart.readElements hitem (leadsToElement_comma hgap)
      (endsNumber_behindPart parts hafter (.inl rfl) rest)
    rw [ih hgap'] at hread
    rw [behindPart_cons]
    simpa [Except.map] using hread

/-- The elements between the brackets of an array are taken. -/
theorem readElements_enclosed {item : Reader α} (hitem : SkipsBlanks item)
    {parts : List (List Char)} {xs : List α} (h : List.Forall₂ (Takes item) parts xs)
    {before after : List Char} (hbefore : IsGap before) (hafter : IsGap after)
    (rest : List Char) :
    readElements item true (before ++ (withCommas parts ++ (after ++ [']'])) ++ rest) =
      .ok (xs, rest) := by
  cases h with
  | nil =>
    have hend := readElements_end item true (List.forall_mem_append.2 ⟨hbefore, hafter⟩) rest
    simpa [withCommas] using hend
  | @cons part x parts xs hpart hparts =>
    obtain ⟨gap, hgap, hread⟩ := hpart.readElements hitem (leadsToElement_gap hbefore)
      (endsNumber_behindPart parts hafter (.inl rfl) rest)
    rw [readElements_behindPart hitem hparts hgap hafter] at hread
    rw [enclosed_cons, hread]
    rfl

/-- An element that may be missing is taken. -/
theorem Takes.readElement? {item : Reader α} {part : List Char} {x : α} (h : Takes item part x)
    (hitem : SkipsBlanks item) {first : Bool} {front more : List Char}
    (hfront : LeadsToElement first front) (hmore : EndsNumber more) :
    ∃ gap, IsGap gap ∧
      readElement? first item (front ++ (part ++ more)) = .ok (some x, gap ++ more) := by
  obtain ⟨start, gap, hgap, -, hnext, hread⟩ := h.exists_nextElement hitem hfront hmore
  refine ⟨gap, hgap, ?_⟩
  unfold Json.readElement?
  simp only [hnext, bind, Except.bind, hread]

/-- An element that may be missing is taken behind another. -/
theorem Takes.readElement?_behindPart {item : Reader α} {part : List Char} {x : α}
    (h : Takes item part x) (hitem : SkipsBlanks item) (parts : List (List Char))
    {gap after : List Char} (hgap : IsGap gap) (hafter : IsGap after) (rest : List Char) :
    ∃ gap', IsGap gap' ∧
      Json.readElement? false item (gap ++ behindPart (part :: parts) after ']' rest) =
        .ok (some x, gap' ++ behindPart parts after ']' rest) := by
  obtain ⟨gap', hgap', hread⟩ := h.readElement? hitem (leadsToElement_comma hgap)
    (endsNumber_behindPart parts hafter (.inl rfl) rest)
  refine ⟨gap', hgap', ?_⟩
  rw [behindPart_cons]
  simpa using hread

/-- The array ends where an element is missing. -/
theorem readElement?_end (item : Reader α) {gap : List Char} (hgap : IsGap gap)
    (rest : List Char) :
    readElement? false item (gap ++ ']' :: rest) = .ok (none, gap ++ ']' :: rest) := by
  have hend : nextElement? false (gap ++ ']' :: rest) = .ok none := by
    unfold nextElement?
    rw [skipBlank_append hgap rfl]
    rfl
  unfold readElement?
  rw [hend]
  rfl

/-- An array is closed behind blanks. -/
theorem closeArray_gap {gap : List Char} (hgap : IsGap gap) (rest : List Char) :
    closeArray (gap ++ ']' :: rest) = .ok rest := by
  unfold closeArray
  rw [skipBlank_append hgap rfl]
  rfl

/-! ## Members -/

/-- Behind the text the next name of an object is found, with any blanks in front. -/
def LeadsToName (first : Bool) (front : List Char) : Prop :=
  ∀ {gap text : List Char}, IsGap gap →
    nextName? first (front ++ (gap ++ '"' :: text)) = .ok (some text)

/-- Blanks lead to the first name. -/
theorem leadsToName_gap {gap : List Char} (hgap : IsGap gap) : LeadsToName true gap := by
  intro gap' text hgap'
  rw [← List.append_assoc]
  exact nextName?_first (List.forall_mem_append.2 ⟨hgap, hgap'⟩)

/-- Blanks and a comma lead to the next name. -/
theorem leadsToName_comma {gap : List Char} (hgap : IsGap gap) :
    LeadsToName false (gap ++ [',']) := by
  intro gap' text hgap'
  have hnext : nextName? false (',' :: gap' ++ '"' :: text) = .ok (some text) :=
    nextName?_comma hgap'
  unfold nextName? at hnext ⊢
  rwa [List.append_assoc, skipBlank_gap_append hgap]

/-- The reader of members takes the text for a member, and what was read before it is changed. -/
def TakesMember (name : Reader ν) (member : σ → ν → Reader σ) (state : σ) (text : List Char)
    (state' : σ) : Prop :=
  ∃ before body, IsGap before ∧ text = before ++ '"' :: body ∧
    ∀ rest, EndsNumber rest → ∃ n behind gap, IsGap gap ∧ gap.length < text.length ∧
      name (body ++ rest) = .ok (n, behind) ∧ member state n behind = .ok (state', gap ++ rest)

/-- A colon is found behind blanks. -/
theorem colon_gap {gap : List Char} (hgap : IsGap gap) (text : List Char) :
    colon (gap ++ ':' :: text) = .ok text := by
  unfold colon
  rw [skipBlank_append hgap rfl]
  rfl

/-- A member is taken if its name is read and its value is taken behind the colon. -/
theorem takesMember_of_takes {name : Reader ν} {member : σ → ν → Reader σ} {state state' : σ}
    {n : ν} {item : Reader α} {value : List Char} {x : α} {before body after : List Char}
    (hbefore : IsGap before) (hafter : IsGap after)
    (hname : ∀ rest, name (body ++ '"' :: rest) = .ok (n, rest)) (hitem : Takes item value x)
    (hmember : ∀ {text behind rest : List Char}, colon text = .ok behind →
      item behind = .ok (x, rest) → member state n text = .ok (state', rest)) :
    TakesMember name member state
      (memberText (before ++ ('"' :: (body ++ ['"']) ++ after), value)) state' := by
  refine ⟨before, body ++ '"' :: (after ++ ':' :: value), hbefore, ?_, fun rest hrest => ?_⟩
  · simp [memberText]
  · obtain ⟨gap, hgap, hlt, hread⟩ := hitem.reads rest hrest
    have hcolon := colon_gap hafter (value ++ rest)
    refine ⟨n, after ++ ':' :: (value ++ rest), gap, hgap, ?_, ?_, hmember hcolon hread⟩
    · simp only [memberText, List.length_append, List.length_cons]
      omega
    · rw [← hname]
      simp

/-- The reader of members takes the texts for members, one after the other. -/
inductive TakesMembers (name : Reader ν) (member : σ → ν → Reader σ) :
    σ → List (List Char) → σ → Prop where
  /-- Without members nothing changes. -/
  | nil (state : σ) : TakesMembers name member state [] state
  /-- A member, and those behind it. -/
  | cons {state state' state'' : σ} {part : List Char} {parts : List (List Char)}
    (hpart : TakesMember name member state part state')
    (hparts : TakesMembers name member state' parts state'') :
    TakesMembers name member state (part :: parts) state''

variable {name : Reader ν} {member : σ → ν → Reader σ} {state state' : σ}

/-- A member is taken, and then the others. -/
theorem TakesMember.readMembers {part : List Char} (h : TakesMember name member state part state')
    {first : Bool} {front more : List Char}
    (hfront : LeadsToName first front) (hmore : EndsNumber more) :
    ∃ gap, IsGap gap ∧ readMembers name member state first (front ++ (part ++ more)) =
      readMembers name member state' false (gap ++ more) := by
  obtain ⟨before, body, hbefore, rfl, hread⟩ := h
  obtain ⟨n, behind, gap, hgap, hlt, hname, hmember⟩ := hread more hmore
  have hlt' : (gap ++ more).length < (front ++ (before ++ '"' :: body ++ more)).length := by
    simp only [List.length_append] at hlt ⊢
    omega
  have hnext : nextName? first (front ++ (before ++ '"' :: body ++ more)) =
      .ok (some (body ++ more)) := by
    rw [List.append_assoc before, List.cons_append]
    exact hfront hbefore
  refine ⟨gap, hgap, ?_⟩
  rw [Json.readMembers]
  simp only [hnext, hname, hmember, hlt', if_true]

/-- The members behind one are taken one after the other, up to the end of the object. -/
theorem TakesMembers.readMembers_behindPart {parts : List (List Char)}
    (h : TakesMembers name member state parts state') {gap after : List Char} (hgap : IsGap gap)
    (hafter : IsGap after) (rest : List Char) :
    readMembers name member state false (gap ++ behindPart parts after '\x7d' rest) =
      .ok (state', rest) := by
  induction h generalizing gap with
  | nil state =>
    have hend := readMembers_end name member state false
      (List.forall_mem_append.2 ⟨hgap, hafter⟩) rest
    rwa [List.append_assoc] at hend
  | @cons state state' state'' part parts hpart _ ih =>
    obtain ⟨gap', hgap', hread⟩ := hpart.readMembers (leadsToName_comma hgap)
      (endsNumber_behindPart parts hafter (.inr rfl) rest)
    rw [ih hgap'] at hread
    rw [behindPart_cons]
    simpa using hread

/-- The members between the brackets of an object are taken. -/
theorem TakesMembers.readMembers_enclosed {parts : List (List Char)}
    (h : TakesMembers name member state parts state') {before after : List Char}
    (hbefore : IsGap before) (hafter : IsGap after) (rest : List Char) :
    readMembers name member state true
      (before ++ (withCommas parts ++ (after ++ ['\x7d'])) ++ rest) = .ok (state', rest) := by
  cases h with
  | nil =>
    have hend := readMembers_end name member state true
      (List.forall_mem_append.2 ⟨hbefore, hafter⟩) rest
    simpa [withCommas] using hend
  | cons hpart hparts =>
    rename_i parts
    obtain ⟨gap, hgap, hread⟩ := hpart.readMembers (leadsToName_gap hbefore)
      (endsNumber_behindPart parts hafter (.inr rfl) rest)
    rw [hparts.readMembers_behindPart hgap hafter] at hread
    rw [enclosed_cons, hread]

/-! ## Common shapes -/

/-- The reader of strings looks behind blanks. -/
theorem skipsBlanks_readText : SkipsBlanks readText := by
  intro text
  unfold readText
  rw [skipBlank_skipBlank]

/-- The reader of optional values looks behind blanks. -/
theorem skipsBlanks_readOptional (item : Reader α) : SkipsBlanks (readOptional item) := by
  intro text
  unfold readOptional
  rw [skipBlank_skipBlank]

/-- The reader of lists looks behind blanks. -/
theorem skipsBlanks_readList (depth : Nat) (item : Nat → Reader α) :
    SkipsBlanks (readList depth item) := by
  intro text
  unfold readList
  rw [skipBlank_skipBlank]

/-- A text between quotation marks is taken for the string that it spells. -/
theorem takes_readText {s : String} {text : List Char} (h : Quotes s text) :
    Takes readText text s := by
  obtain ⟨body, hbody, rfl⟩ := h
  refine takes_of_eq (startsElement_mark (.inl rfl)) fun rest _ => ?_
  rw [List.append_assoc]
  exact readString_of_spells hbody rest

/-- Where a value may be missing, `null` and the texts of values are taken. No value may start like
the word. -/
theorem takes_readOptional {item : Reader α} {P : α → List Char → Prop}
    (h : ∀ {x : α} {text : List Char}, P x text → Takes item text x)
    (hP : ∀ {x : α} {text : List Char}, P x text → StartsUnlikeNull text)
    {x : Option α} {text : List Char} (htext : OrNull P x text) :
    Takes (readOptional item) text x := by
  cases x with
  | none =>
    obtain rfl : text = ['n', 'u', 'l', 'l'] := htext
    exact takes_of_eq ⟨rfl, by decide, by decide⟩ fun rest _ => rfl
  | some x =>
    -- The item does not start like the word `null`, so it is read as an item.
    have htakes := h htext
    obtain ⟨c, tail, rfl, hblank, hn⟩ := hP htext
    refine ⟨htakes.starts, fun rest hrest => ?_⟩
    obtain ⟨gap, hgap, hlt, hread⟩ := htakes.reads rest hrest
    have hskip : skipBlank (c :: tail ++ rest) = c :: (tail ++ rest) :=
      List.dropWhile_cons_of_neg (by simp [hblank])
    refine ⟨gap, hgap, hlt, ?_⟩
    unfold readOptional
    rw [hskip]
    split
    · next heq => exact absurd (List.cons.inj heq).1 hn
    · rw [← List.cons_append, hread]
      rfl

/-- An array of texts for strings is taken, if a level of nesting is left. -/
theorem takes_readList {xs : List String} {text : List Char} (h : IsListOf Quotes xs text)
    (depth : Nat) : Takes (readList (depth + 1) fun _ => readText) text xs := by
  obtain ⟨parts, hparts, before, after, hbefore, hafter, rfl⟩ := h
  have htakes : List.Forall₂ (Takes readText) parts xs :=
    hparts.imp fun part x => takes_of_padded (fun _ => takes_readText) skipsBlanks_readText
  refine takes_of_eq (startsElement_mark (.inr (.inl rfl))) fun rest _ => ?_
  exact readElements_enclosed skipsBlanks_readText htakes hbefore hafter rest

end RequiredFields.Json
