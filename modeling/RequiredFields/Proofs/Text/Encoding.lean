import Mathlib.Data.List.Basic
import RequiredFields.Text.Octets

/-!
# Characters in octets

A text in UTF-8 is the octets of its characters one after the other. The octets of one character
are a first octet, which continues no character, and octets that do; the reader of characters takes
exactly these (`exists_encodes`). So a text is read from its octets (`toText?_ofText`), and only the
mark of the encoding is taken away in front of it (`withoutMark_ofText`).
-/

namespace RequiredFields.Octets

/-- The octets of characters one after the other. -/
def ofChars (text : List Char) : Octets :=
  text.flatMap String.utf8EncodeChar

@[simp] theorem ofChars_nil : ofChars [] = [] := rfl

@[simp] theorem ofChars_cons (c : Char) (text : List Char) :
    ofChars (c :: text) = String.utf8EncodeChar c ++ ofChars text := rfl

@[simp] theorem ofChars_append (front back : List Char) :
    ofChars (front ++ back) = ofChars front ++ ofChars back :=
  List.flatMap_append

/-- The octets of an array from an offset on are collected behind those in front. -/
theorem toList_loop (octets : ByteArray) (i : Nat) (front : List UInt8) :
    ByteArray.toList.loop octets i front = front.reverse ++ octets.data.toList.drop i := by
  fun_induction ByteArray.toList.loop octets i front with
  | case1 i front h ih =>
    have hi : i < octets.data.toList.length := h
    rw [ih, List.drop_eq_getElem_cons hi]
    simp [ByteArray.get!, h]
  | case2 i front h =>
    rw [List.drop_eq_nil_of_le (Nat.le_of_not_lt h), List.append_nil]

/-- The octets of a text are those of its characters. -/
theorem ofText_eq (text : String) : ofText text = ofChars text.toList := by
  unfold ofText ofChars ByteArray.toList String.toUTF8
  rw [toList_loop, ← String.utf8Encode_toList, List.utf8Encode, List.toList_data_toByteArray]
  rfl

/-! ## One character -/

/-- An octet continues a character if it is among 64 octets. -/
theorem isTail_iff {b : UInt8} : isTail b = true ↔ 0x80 ≤ b.toNat ∧ b.toNat ≤ 0xBF := by
  simp [isTail, UInt8.le_iff_toNat_le]

/-- The octets of a character: a first octet and those that continue it, which are read as the
character. -/
structure Encodes (c : Char) (b : UInt8) (tail : Octets) : Prop where
  /-- The first octet continues no character. -/
  isTail_first : isTail b = false
  /-- The others do. -/
  isTail_tail : ∀ t ∈ tail, isTail t = true
  /-- The character is read. -/
  next_eq : ∀ rest, next b (tail ++ rest) = (some c, rest)

/-- An octet with six bits of a character. -/
def continuation (k : Nat) : UInt8 := .ofNat (k + 128)

/-- The octet stands for its number. -/
theorem toNat_continuation {k : Nat} (hk : k < 64) : (continuation k).toNat = k + 128 := by
  unfold continuation
  rw [UInt8.toNat_ofNat']
  omega

/-- The octet continues a character. -/
theorem isTail_continuation {k : Nat} (hk : k < 64) : isTail (continuation k) = true := by
  rw [isTail_iff, toNat_continuation hk]
  omega

/-- Behind the second octet each octet adds its bits. -/
theorem tails_continuation (count n : Nat) {k : Nat} (hk : k < 64) (rest : Octets) :
    tails (count + 1) n (continuation k :: rest) = tails count (n * 64 + k) rest := by
  rw [tails, if_pos (isTail_continuation hk), toNat_continuation hk, Nat.add_sub_cancel]

/-- A second octet in range adds its bits to those of the first. -/
theorem next_continuation {b low high : UInt8} {count n k : Nat}
    (hlead : lead? b = some (count + 1, low, high, n)) (hb : 0x80 ≤ b.toNat) (hk : k < 64)
    (hlow : low.toNat ≤ k + 128) (hhigh : k + 128 ≤ high.toNat) (rest : Octets) :
    next b (continuation k :: rest) = tails count (n * 64 + k) rest := by
  have hlt : ¬ b < 0x80 := by
    rw [UInt8.lt_iff_toNat_lt]
    exact Nat.not_lt.2 hb
  have hrange : (low ≤ continuation k && continuation k ≤ high) = true := by
    simp [UInt8.le_iff_toNat_le, toNat_continuation hk, hlow, hhigh]
  unfold next
  rw [if_neg hlt, hlead]
  simp only [hrange, if_true, toNat_continuation hk, Nat.add_sub_cancel]

/-- The first octet of two. With less it would spell too small a number. -/
theorem lead?_two : ∀ k < 30, lead? (.ofNat (k + 194)) = some (1, 0x80, 0xBF, k + 2) := by
  decide

/-- The first octet of three. A second octet that would spell too small a number or half of a pair
is out of range. -/
theorem lead?_three : ∀ k < 16, lead? (.ofNat (k + 224)) =
    some (2, if k = 0 then 0xA0 else 0x80, if k = 0xD then 0x9F else 0xBF, k) := by
  decide

/-- The first octet of four. A second octet that would spell too small or too large a number is out
of range. -/
theorem lead?_four : ∀ k < 5, lead? (.ofNat (k + 240)) =
    some (3, if k = 0 then 0x90 else 0x80, if k = 4 then 0x8F else 0xBF, k) := by
  decide

/-- The number of a character is not that of half a pair, and not too large. -/
theorem toNat_range (c : Char) :
    c.toNat < 0xD800 ∨ 0xDFFF < c.toNat ∧ c.toNat < 0x110000 := by
  rcases c.valid with h | h
  · exact .inl h
  · exact .inr h

/-- A small number stands for itself. -/
theorem encodes_one {c : Char} (hc : c.toNat < 0x80) : Encodes c (.ofNat c.toNat) [] where
  isTail_first := by
    rw [← Bool.not_eq_true, isTail_iff, UInt8.toNat_ofNat']
    omega
  isTail_tail := List.forall_mem_nil _
  next_eq rest := by
    have hn : (UInt8.ofNat c.toNat).toNat = c.toNat := by
      rw [UInt8.toNat_ofNat']
      omega
    have hlt : UInt8.ofNat c.toNat < 0x80 := by
      rw [UInt8.lt_iff_toNat_lt, hn]
      exact hc
    unfold next
    rw [List.nil_append, if_pos hlt, hn, Char.ofNat_toNat]

/-- A first octet of several continues no character. -/
theorem isTail_first_of_le {k : Nat} (hk : 0xC0 ≤ k) (hk' : k < 0x100) :
    isTail (.ofNat k) = false := by
  rw [← Bool.not_eq_true, isTail_iff, UInt8.toNat_ofNat']
  omega

/-- Two octets. -/
theorem encodes_two {c : Char} (hc : 0x80 ≤ c.toNat) (hc' : c.toNat < 0x800) :
    Encodes c (.ofNat (c.toNat / 64 + 192)) [continuation (c.toNat % 64)] where
  isTail_first := isTail_first_of_le (by omega) (by omega)
  isTail_tail := List.forall_mem_singleton.2 (isTail_continuation (by omega))
  next_eq rest := by
    -- At least 128, the number makes a first octet of at least 194.
    obtain ⟨k, hk⟩ : ∃ k, c.toNat / 64 = k + 2 := ⟨c.toNat / 64 - 2, by omega⟩
    have hsum : (k + 2) * 64 + c.toNat % 64 = c.toNat := by omega
    have hlow : (0x80 : UInt8).toNat ≤ c.toNat % 64 + 128 := Nat.le_add_left ..
    have hhigh : c.toNat % 64 + 128 ≤ (0xBF : UInt8).toNat := by
      simp
      omega
    rw [List.singleton_append, hk, next_continuation (lead?_two k (by omega))
      (by rw [UInt8.toNat_ofNat']; omega) (by omega) hlow hhigh, tails, hsum, Char.ofNat_toNat]

/-- Three octets. -/
theorem encodes_three {c : Char} (hc : 0x800 ≤ c.toNat) (hc' : c.toNat < 0x10000) :
    Encodes c (.ofNat (c.toNat / 4096 + 224))
      [continuation (c.toNat / 64 % 64), continuation (c.toNat % 64)] where
  isTail_first := isTail_first_of_le (by omega) (by omega)
  isTail_tail := by
    simp only [List.forall_mem_cons]
    exact ⟨isTail_continuation (by omega), isTail_continuation (by omega), List.forall_mem_nil _⟩
  next_eq rest := by
    have hrange := toNat_range c
    have hsum : (c.toNat / 4096 * 64 + c.toNat / 64 % 64) * 64 + c.toNat % 64 = c.toNat := by omega
    -- The range of the second octet leaves out only the numbers of two octets and of half pairs.
    have hlow : (if c.toNat / 4096 = 0 then 0xA0 else 0x80 : UInt8).toNat ≤
        c.toNat / 64 % 64 + 128 := by
      split
      · simp
        omega
      · simp
    have hhigh : c.toNat / 64 % 64 + 128 ≤
        (if c.toNat / 4096 = 0xD then 0x9F else 0xBF : UInt8).toNat := by
      split
      · simp
        omega
      · simp
        omega
    rw [List.cons_append, next_continuation (lead?_three (c.toNat / 4096) (by omega))
      (by rw [UInt8.toNat_ofNat']; omega) (by omega) hlow hhigh, List.singleton_append,
      tails_continuation _ _ (by omega), tails, hsum, Char.ofNat_toNat]

/-- Four octets. -/
theorem encodes_four {c : Char} (hc : 0x10000 ≤ c.toNat) :
    Encodes c (.ofNat (c.toNat / 262144 + 240)) [continuation (c.toNat / 4096 % 64),
      continuation (c.toNat / 64 % 64), continuation (c.toNat % 64)] where
  isTail_first := by
    have hrange := toNat_range c
    exact isTail_first_of_le (by omega) (by omega)
  isTail_tail := by
    simp only [List.forall_mem_cons]
    exact ⟨isTail_continuation (by omega), isTail_continuation (by omega),
      isTail_continuation (by omega), List.forall_mem_nil _⟩
  next_eq rest := by
    have hrange := toNat_range c
    have hsum : ((c.toNat / 262144 * 64 + c.toNat / 4096 % 64) * 64 + c.toNat / 64 % 64) * 64 +
        c.toNat % 64 = c.toNat := by omega
    -- Here it leaves out only the numbers of three octets and those that are too large.
    have hlow : (if c.toNat / 262144 = 0 then 0x90 else 0x80 : UInt8).toNat ≤
        c.toNat / 4096 % 64 + 128 := by
      split
      · simp
        omega
      · simp
    have hhigh : c.toNat / 4096 % 64 + 128 ≤
        (if c.toNat / 262144 = 4 then 0x8F else 0xBF : UInt8).toNat := by
      split
      · simp
        omega
      · simp
        omega
    rw [List.cons_append, next_continuation (lead?_four (c.toNat / 262144) (by omega))
      (by rw [UInt8.toNat_ofNat']; omega) (by omega) hlow hhigh, List.cons_append,
      tails_continuation _ _ (by omega), List.singleton_append, tails_continuation _ _ (by omega),
      tails, hsum, Char.ofNat_toNat]

/-- Every character is a first octet and those that continue it. -/
theorem exists_encodes (c : Char) :
    ∃ b tail, String.utf8EncodeChar c = b :: tail ∧ Encodes c b tail := by
  have hrange := toNat_range c
  have hval : c.val.toNat = c.toNat := rfl
  unfold String.utf8EncodeChar
  simp only [hval]
  split
  · exact ⟨_, _, rfl, encodes_one (by omega)⟩
  split
  · refine ⟨_, _, ?_, encodes_two (by omega) (by omega)⟩
    rw [Nat.mod_eq_of_lt (show c.toNat / 64 < 32 by omega)]
    rfl
  split
  · refine ⟨_, _, ?_, encodes_three (by omega) (by omega)⟩
    rw [Nat.mod_eq_of_lt (show c.toNat / 4096 < 16 by omega)]
    rfl
  · refine ⟨_, _, ?_, encodes_four (by omega)⟩
    rw [Nat.mod_eq_of_lt (show c.toNat / 262144 < 8 by omega)]
    rfl

/-- Only the empty text has no octets. -/
theorem isEmpty_ofChars (text : List Char) : (ofChars text).isEmpty = text.isEmpty := by
  cases text with
  | nil => rfl
  | cons c text =>
    obtain ⟨b, tail, henc, -⟩ := exists_encodes c
    rw [ofChars_cons, henc]
    rfl

/-! ## Whole texts -/

/-- The characters are read from their octets, without a fault. -/
theorem decode_ofChars (text : List Char) : decode (ofChars text) = text.map some := by
  induction text with
  | nil => rw [ofChars_nil, decode, List.map_nil]
  | cons c text ih =>
    obtain ⟨b, tail, henc, h⟩ := exists_encodes c
    rw [ofChars_cons, henc, List.cons_append, decode, h.next_eq, ih, List.map_cons]

/-- A text is read from its octets. -/
@[simp] theorem toText?_ofText (text : String) : (ofText text).toText? = some text := by
  have hread : (text.toList.map some).mapM id = some text.toList := by
    induction text.toList with
    | nil => rfl
    | cons c text ih => rw [List.map_cons, List.mapM_cons, ih]; rfl
  rw [toText?, ofText_eq, decode_ofChars, hread, Option.map_some, String.ofList_toList]

/-- A text is read from its octets also where faults would be replaced. -/
@[simp] theorem toTextLossy_ofText (text : String) : (ofText text).toTextLossy = text := by
  rw [toTextLossy, ofText_eq, decode_ofChars, List.map_map]
  exact (congrArg String.ofList (List.map_id _)).trans String.ofList_toList

/-- Only the mark of the encoding is taken away from the start of a text. -/
theorem withoutMark_ofText {text : String} (h : text.toList.head? ≠ some '\uFEFF') :
    (ofText text).withoutMark = ofText text := by
  rw [ofText_eq]
  cases htext : text.toList with
  | nil => rfl
  | cons c rest =>
    obtain ⟨b, tail, henc, hc⟩ := exists_encodes c
    have hnext := hc.next_eq (ofChars rest)
    rw [ofChars_cons, henc, List.cons_append]
    unfold withoutMark
    split
    · next rest' heq =>
      -- The three octets of the mark are read as the mark, and so it is the first character.
      obtain ⟨rfl, htail⟩ := List.cons.inj heq
      rw [htail] at hnext
      have hmark : next 0xEF (0xBB :: 0xBF :: rest') = (some '\uFEFF', rest') := rfl
      rw [hmark] at hnext
      obtain rfl := Option.some.inj (Prod.mk.inj hnext).1
      rw [htext] at h
      exact absurd List.head?_cons h
    · rfl

end RequiredFields.Octets
