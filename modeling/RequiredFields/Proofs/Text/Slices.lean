import RequiredFields.Proofs.Text.Encoding

/-!
# Cutting octets

A text in UTF-8 may be cut where a character starts and at its end; an offset inside a character or
behind the end is a fault. The offsets at which a text may be cut are those where one part of its
characters ends and the other starts (`isBoundary_ofChars_iff`), reading a text yields each
character with the offset at which it starts (`charIndices_ofChars`), and no text in UTF-8 starts
like another whose characters it does not start with (`isPrefixOf_ofChars`).
-/

namespace RequiredFields.Octets

/-- Why octets cannot be cut or read. -/
inductive Fault where
  /-- An offset behind the end. -/
  | outside
  /-- An offset inside a character. -/
  | inside
  /-- Octets that spell no character. -/
  | encoding
  deriving DecidableEq, Repr

/-! ## Boundaries -/

/-- Whether a character starts at the offset, or the octets end there. -/
def isBoundary (octets : Octets) (i : Nat) : Bool :=
  match octets[i]? with
  | some b => i == 0 || !isTail b
  | none => i == octets.length

/-- The octets from an offset on. -/
def sliceFrom (octets : Octets) (i : Nat) : Except Fault Octets :=
  if isBoundary octets i then .ok (octets.drop i)
  else .error (if octets.length < i then .outside else .inside)

/-- The octets up to an offset. -/
def sliceTo (octets : Octets) (i : Nat) : Except Fault Octets :=
  if isBoundary octets i then .ok (octets.take i)
  else .error (if octets.length < i then .outside else .inside)

/-- Behind some of the characters the others start. -/
theorem isBoundary_length (front back : List Char) :
    isBoundary (ofChars (front ++ back)) (ofChars front).length = true := by
  unfold isBoundary
  rw [ofChars_append, List.getElem?_append_right (Nat.le_refl _), Nat.sub_self]
  cases back with
  | nil => simp
  | cons c back =>
    obtain ⟨b, tail, henc, h⟩ := exists_encodes c
    rw [ofChars_cons, henc]
    simp [h.isTail_first]

/-- No character starts in the middle of another. -/
theorem length_le_of_isBoundary {c : Char} {text : List Char} {i : Nat}
    (h : isBoundary (ofChars (c :: text)) i = true) (hi : i ≠ 0) :
    (String.utf8EncodeChar c).length ≤ i := by
  obtain ⟨b, tail, henc, hc⟩ := exists_encodes c
  by_contra hlt
  obtain ⟨j, rfl⟩ := Nat.exists_eq_succ_of_ne_zero hi
  rw [henc, List.length_cons] at hlt
  have hj : j < tail.length := by omega
  have hget : (ofChars (c :: text))[j + 1]? = some tail[j] := by
    rw [ofChars_cons, henc, List.cons_append, List.getElem?_cons_succ,
      List.getElem?_append_left hj, List.getElem?_eq_getElem hj]
  unfold isBoundary at h
  rw [hget] at h
  simp [hc.isTail_tail _ (List.getElem_mem hj)] at h

/-- Behind the first character the boundaries are those of the others. -/
theorem isBoundary_add (c : Char) (text : List Char) {i : Nat}
    (h : isBoundary (ofChars (c :: text)) ((String.utf8EncodeChar c).length + i) = true) :
    isBoundary (ofChars text) i = true := by
  unfold isBoundary at h ⊢
  rw [ofChars_cons, List.getElem?_append_right (Nat.le_add_right ..), Nat.add_sub_cancel_left] at h
  obtain ⟨b, tail, henc, -⟩ := exists_encodes c
  rw [henc] at h
  cases hget : (ofChars text)[i]? with
  | none =>
    simp only [hget, List.length_append, beq_iff_eq] at h ⊢
    omega
  | some b => simp_all

/-- A text may be cut exactly where one part of its characters ends and the other starts. -/
theorem isBoundary_ofChars_iff {text : List Char} {i : Nat} :
    isBoundary (ofChars text) i = true ↔
      ∃ front back, text = front ++ back ∧ i = (ofChars front).length := by
  constructor
  · intro h
    -- A boundary is the start of the text or one behind its first character.
    induction text generalizing i with
    | nil => exact ⟨[], [], rfl, by simpa [isBoundary] using h⟩
    | cons c text ih =>
      by_cases hi : i = 0
      · exact ⟨[], c :: text, rfl, hi⟩
      · obtain ⟨j, rfl⟩ := Nat.exists_eq_add_of_le (length_le_of_isBoundary h hi)
        obtain ⟨front, back, rfl, rfl⟩ := ih (isBoundary_add c text h)
        exact ⟨c :: front, back, rfl, by rw [ofChars_cons, List.length_append]⟩
  · rintro ⟨front, back, rfl, rfl⟩
    exact isBoundary_length front back

/-- Octets are cut at an offset within them. -/
theorem le_length_of_sliceFrom {octets rest : Octets} {i : Nat}
    (h : sliceFrom octets i = .ok rest) : i ≤ octets.length := by
  unfold sliceFrom at h
  split at h
  · next hi =>
    unfold isBoundary at hi
    split at hi
    · next hget => exact Nat.le_of_lt (List.getElem?_eq_some_iff.1 hget).1
    · exact Nat.le_of_eq (beq_iff_eq.1 hi)
  · contradiction

/-- The octets behind some of the characters are those of the others. -/
theorem sliceFrom_length (front back : List Char) :
    sliceFrom (ofChars (front ++ back)) (ofChars front).length = .ok (ofChars back) := by
  unfold sliceFrom
  rw [if_pos (isBoundary_length front back), ofChars_append, List.drop_left]

/-- The octets up to the end of some of the characters are theirs. -/
theorem sliceTo_length (front back : List Char) :
    sliceTo (ofChars (front ++ back)) (ofChars front).length = .ok (ofChars front) := by
  unfold sliceTo
  rw [if_pos (isBoundary_length front back), ofChars_append, List.take_left]

/-! ## Characters -/

/-- The characters of a text with the offsets at which they start, the first at `i`. -/
def charIndices (i : Nat) : Octets → Except Fault (List (Nat × Char))
  | [] => .ok []
  | b :: octets =>
    have := length_next b octets
    match (next b octets).1 with
    | some c =>
      let behind := (next b octets).2
      (charIndices (i + (octets.length + 1 - behind.length)) behind).map ((i, c) :: ·)
    | none => .error .encoding
termination_by octets => octets.length
decreasing_by simp only [List.length_cons]; omega

/-- Characters with the offsets at which they start, the first at `i`. -/
def indices (i : Nat) : List Char → List (Nat × Char)
  | [] => []
  | c :: text => (i, c) :: indices (i + (String.utf8EncodeChar c).length) text

/-- The characters of a text. -/
def chars (octets : Octets) : Except Fault (List Char) :=
  (charIndices 0 octets).map (·.map Prod.snd)

/-- The characters of a text are read with the offsets at which they start. -/
theorem charIndices_ofChars (i : Nat) (text : List Char) :
    charIndices i (ofChars text) = .ok (indices i text) := by
  induction text generalizing i with
  | nil => rw [ofChars_nil, charIndices, indices]
  | cons c text ih =>
    obtain ⟨b, tail, henc, h⟩ := exists_encodes c
    have hlength : (tail ++ ofChars text).length + 1 - (ofChars text).length =
        (b :: tail).length := by
      rw [List.length_append, List.length_cons]
      omega
    rw [ofChars_cons, henc, List.cons_append, charIndices, indices, henc]
    simp only [h.next_eq, hlength, ih]
    rfl

/-- The characters of a text are read. -/
theorem chars_ofChars (text : List Char) : chars (ofChars text) = .ok text := by
  have hsnd : ∀ i, (indices i text).map Prod.snd = text := by
    induction text with
    | nil => exact fun _ => rfl
    | cons c text ih => exact fun i => congrArg (c :: ·) (ih _)
  unfold chars
  rw [charIndices_ofChars]
  exact congrArg Except.ok (hsnd 0)

/-- The octets of a text whose characters are changed. -/
def onChars (f : List Char → List Char) (octets : Octets) : Except Fault Octets :=
  (chars octets).map fun text => ofChars (f text)

/-- What is changed are the characters. -/
theorem onChars_ofChars (f : List Char → List Char) (text : List Char) :
    onChars f (ofChars text) = .ok (ofChars (f text)) := by
  unfold onChars
  rw [chars_ofChars]
  rfl

/-- The characters of a text as a string. -/
def toText (octets : Octets) : Except Fault String :=
  (chars octets).map String.ofList

/-- The string is read. -/
theorem toText_ofChars (text : List Char) : toText (ofChars text) = .ok (.ofList text) := by
  unfold toText
  rw [chars_ofChars]
  rfl

/-- The first character of a text. -/
def firstChar : Octets → Except Fault (Option Char)
  | [] => .ok none
  | b :: octets =>
    match (next b octets).1 with
    | some c => .ok (some c)
    | none => .error .encoding

/-- The first character of a text is read. -/
theorem firstChar_ofChars (text : List Char) : firstChar (ofChars text) = .ok text.head? := by
  cases text with
  | nil => rfl
  | cons c text =>
    obtain ⟨b, tail, henc, h⟩ := exists_encodes c
    rw [ofChars_cons, henc, List.cons_append, firstChar, h.next_eq]
    rfl

/-! ## Prefixes -/

/-- Where octets start like a text in UTF-8, the characters do. -/
theorem exists_eq_append_of_ofChars {needle text : List Char} {rest : Octets}
    (h : ofChars needle ++ rest = ofChars text) : ∃ back, text = needle ++ back := by
  induction needle generalizing text with
  | nil => exact ⟨text, rfl⟩
  | cons c needle ih =>
    obtain ⟨b, tail, henc, hc⟩ := exists_encodes c
    cases text with
    | nil =>
      rw [ofChars_cons, henc] at h
      contradiction
    | cons d text =>
      obtain ⟨b', tail', henc', hd⟩ := exists_encodes d
      rw [ofChars_cons, henc, ofChars_cons, henc', List.cons_append, List.cons_append,
        List.cons_append, List.append_assoc] at h
      obtain ⟨rfl, hrest⟩ := List.cons.inj h
      -- Both texts are read on from the same first octet, so the same character is read.
      have hnext := hc.next_eq (ofChars needle ++ rest)
      rw [hrest, hd.next_eq] at hnext
      obtain ⟨hchar, hbehind⟩ := Prod.mk.inj hnext
      obtain rfl := Option.some.inj hchar
      obtain ⟨back, rfl⟩ := ih hbehind.symm
      exact ⟨back, rfl⟩

/-- Where octets start like a character in UTF-8, the character stands there. -/
theorem exists_eq_cons_of_ofChars {c : Char} {text : List Char} {rest : Octets}
    (h : String.utf8EncodeChar c ++ rest = ofChars text) : ∃ back, text = c :: back := by
  have hneedle : ofChars [c] ++ rest = ofChars text := by
    rwa [ofChars_cons, ofChars_nil, List.append_nil]
  exact exists_eq_append_of_ofChars hneedle

/-- Octets start like others exactly where their characters do. -/
theorem isPrefixOf_ofChars (needle text : List Char) :
    (ofChars needle).isPrefixOf (ofChars text) = needle.isPrefixOf text := by
  rw [Bool.eq_iff_iff, List.isPrefixOf_iff_prefix, List.isPrefixOf_iff_prefix]
  constructor
  · rintro ⟨rest, h⟩
    obtain ⟨back, rfl⟩ := exists_eq_append_of_ofChars h
    exact List.prefix_append needle back
  · rintro ⟨back, rfl⟩
    rw [ofChars_append]
    exact List.prefix_append _ _

/-! ## Searching -/

/-- The offset of the first occurrence of the needle. -/
def offsetOf? (needle : Octets) : Octets → Option Nat
  | [] => if needle.isEmpty then some 0 else none
  | b :: octets =>
    if needle.isPrefixOf (b :: octets) then some 0 else (offsetOf? needle octets).map (· + 1)

/-- Nothing that starts like a character is found where a character goes on. -/
theorem offsetOf?_tail {b : UInt8} (hb : isTail b = false) (needle : Octets) {tail : Octets}
    (htail : ∀ t ∈ tail, isTail t = true) (rest : Octets) :
    offsetOf? (b :: needle) (tail ++ rest) =
      (offsetOf? (b :: needle) rest).map (· + tail.length) := by
  induction tail with
  | nil => simp
  | cons t tail ih =>
    obtain ⟨ht, htail⟩ := List.forall_mem_cons.1 htail
    have hne : (b == t) = false := by
      rw [beq_eq_false_iff_ne]
      rintro rfl
      rw [hb] at ht
      contradiction
    rw [List.cons_append, offsetOf?, List.isPrefixOf, hne, Bool.false_and,
      if_neg Bool.false_ne_true, ih htail, Option.map_map]
    rfl

end RequiredFields.Octets
