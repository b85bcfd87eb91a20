import Mathlib.Tactic.SplitIfs
import RequiredFields.Json.Lexeme

/-!
# Spelled strings

A string has many spellings: each of its characters may stand as it is or behind a backslash, by a
letter, by its number, or by two numbers if its own is too large for four digits. The reader of
strings takes every spelling for the string (`readString_of_spells`): what spells a character is
read as this character (`stringChar_of_spellsChar`) and does not start with the mark that ends the
string.
-/

namespace RequiredFields.Json

/-- Four hexadecimal digits that write a number. -/
def IsHex (n : Nat) (digits : List Char) : Prop :=
  ∃ a b c d i j k l, digits = [a, b, c, d] ∧ Digit.hex? a = some i ∧ Digit.hex? b = some j ∧
    Digit.hex? c = some k ∧ Digit.hex? d = some l ∧ n = ((i * 16 + j) * 16 + k) * 16 + l

/-- The letters that may follow a backslash, with the characters that they stand for. -/
def letters : List (Char × Char) :=
  [('"', '"'), ('\\', '\\'), ('/', '/'), ('b', '\x08'), ('f', '\x0c'), ('n', '\n'), ('r', '\r'),
    ('t', '\t')]

/-- The texts that spell a character between quotation marks. -/
inductive SpellsChar : Char → List Char → Prop where
  /-- The character as it is. -/
  | plain {c : Char} (hquote : c ≠ '"') (hbackslash : c ≠ '\\') (hc : 0x20 ≤ c.toNat) :
    SpellsChar c [c]
  /-- Its letter. -/
  | letter {l c : Char} (h : (l, c) ∈ letters) : SpellsChar c ['\\', l]
  /-- Its number. -/
  | number {c : Char} {digits : List Char} (h : IsHex c.toNat digits) :
    SpellsChar c ('\\' :: 'u' :: digits)
  /-- Two numbers, for a character whose own number has more than four digits. -/
  | pair {c : Char} {high low : List Char} (hc : 0x10000 ≤ c.toNat)
    (hhigh : IsHex (0xD800 + (c.toNat - 0x10000) / 0x400) high)
    (hlow : IsHex (0xDC00 + (c.toNat - 0x10000) % 0x400) low) :
    SpellsChar c ('\\' :: 'u' :: (high ++ '\\' :: 'u' :: low))

/-- The texts that spell characters one after the other. -/
inductive Spells : List Char → List Char → Prop where
  /-- Nothing. -/
  | nil : Spells [] []
  /-- A character, and those behind it. -/
  | cons {c : Char} {cs part text : List Char} (hc : SpellsChar c part) (h : Spells cs text) :
    Spells (c :: cs) (part ++ text)

/-- What is read as four digits writes the number. -/
theorem isHex_of_hexNumber {n : Nat} {digits : List Char} (h : hexNumber digits = .ok (n, [])) :
    IsHex n digits := by
  unfold hexNumber at h
  split at h
  · next a b c d text =>
    split at h
    · next i j k l ha hb hc hd =>
      obtain ⟨rfl, rfl⟩ := Prod.mk.inj (Except.ok.inj h)
      exact ⟨a, b, c, d, i, j, k, l, rfl, ha, hb, hc, hd, rfl⟩
    · contradiction
  · split at h <;> contradiction

/-- Four digits are read as the number that they write. -/
theorem hexNumber_of_isHex {n : Nat} {digits : List Char} (h : IsHex n digits)
    (rest : List Char) : hexNumber (digits ++ rest) = .ok (n, rest) := by
  obtain ⟨a, b, c, d, i, j, k, l, rfl, ha, hb, hc, hd, rfl⟩ := h
  simp [hexNumber, ha, hb, hc, hd]

/-- The letter of a number is not among the letters that stand for a character. -/
theorem ne_of_mem_letters {l c : Char} (h : (l, c) ∈ letters) : l ≠ 'u' := by
  rintro rfl
  simp [letters] at h

/-- A letter behind a backslash is read as the character that it stands for, and no other is. -/
theorem escapeLetter?_eq_some_iff {l c : Char} : escapeLetter? l = some c ↔ (l, c) ∈ letters := by
  constructor
  · intro h
    unfold escapeLetter? at h
    split_ifs at h with hself hb hf hn hr ht
    · obtain rfl := Option.some.inj h
      rcases hself with rfl | rfl | rfl <;> decide
    all_goals
      obtain rfl := Option.some.inj h
      subst l
      decide
  · intro h
    simp only [letters, List.mem_cons, Prod.mk.injEq, List.not_mem_nil, or_false] at h
    rcases h with ⟨rfl, rfl⟩ | ⟨rfl, rfl⟩ | ⟨rfl, rfl⟩ | ⟨rfl, rfl⟩ | ⟨rfl, rfl⟩ | ⟨rfl, rfl⟩ |
      ⟨rfl, rfl⟩ | ⟨rfl, rfl⟩ <;> rfl

/-- The number of a character is read as the character. -/
theorem numericEscape_of_isHex {c : Char} {digits : List Char} (h : IsHex c.toNat digits)
    (rest : List Char) : numericEscape (digits ++ rest) = .ok (c, rest) := by
  -- The number of a character is no surrogate, so it is not read as half of a pair.
  have hvalid : c.toNat < 0xD800 ∨ 0xDFFF < c.toNat := by
    rcases c.valid with h | h
    · exact .inl h
    · exact .inr h.1
  have hlow : isLowSurrogate c.toNat = false := by
    simp only [isLowSurrogate, Bool.and_eq_false_iff, decide_eq_false_iff_not]
    omega
  have hhigh : isHighSurrogate c.toNat = false := by
    simp only [isHighSurrogate, Bool.and_eq_false_iff, decide_eq_false_iff_not]
    omega
  unfold numericEscape
  rw [hexNumber_of_isHex h]
  simp only [bind, Except.bind, hlow, hhigh, Bool.false_eq_true, if_false, Bool.not_false, if_true,
    Char.ofNat_toNat]

/-- A number of the first half and one of the second half are read as one character. -/
theorem numericEscape_pair {m n : Nat} {high low : List Char} (hhigh : IsHex m high)
    (hlow : IsHex n low) (hm : isHighSurrogate m = true) (hn : isLowSurrogate n = true)
    (rest : List Char) :
    numericEscape (high ++ '\\' :: 'u' :: (low ++ rest)) =
      .ok (Char.ofNat (0x10000 + (m - 0xD800) * 0x400 + (n - 0xDC00)), rest) := by
  have hm' : isLowSurrogate m = false := by
    simp only [isHighSurrogate, Bool.and_eq_true, decide_eq_true_eq] at hm
    simp only [isLowSurrogate, Bool.and_eq_false_iff, decide_eq_false_iff_not]
    omega
  unfold numericEscape
  rw [hexNumber_of_isHex hhigh]
  simp only [bind, Except.bind, hm', hm, hexNumber_of_isHex hlow, hn, Bool.false_eq_true, if_false,
    Bool.not_true, if_true]

/-- The two numbers of a character are read as the character. -/
theorem numericEscape_of_isHex_pair {c : Char} (hc : 0x10000 ≤ c.toNat) {high low : List Char}
    (hhigh : IsHex (0xD800 + (c.toNat - 0x10000) / 0x400) high)
    (hlow : IsHex (0xDC00 + (c.toNat - 0x10000) % 0x400) low) (rest : List Char) :
    numericEscape (high ++ '\\' :: 'u' :: (low ++ rest)) = .ok (c, rest) := by
  have hmax : c.toNat < 0x110000 := by
    rcases c.valid with h | h
    · exact Nat.lt_trans h (by decide)
    · exact h.2
  have hfirst : isHighSurrogate (0xD800 + (c.toNat - 0x10000) / 0x400) = true := by
    simp only [isHighSurrogate, Bool.and_eq_true, decide_eq_true_eq]
    omega
  have hsecond : isLowSurrogate (0xDC00 + (c.toNat - 0x10000) % 0x400) = true := by
    simp only [isLowSurrogate, Bool.and_eq_true, decide_eq_true_eq]
    omega
  -- Put together, the halves are the number that they were taken from.
  have hnumber : 0x10000 + (0xD800 + (c.toNat - 0x10000) / 0x400 - 0xD800) * 0x400 +
      (0xDC00 + (c.toNat - 0x10000) % 0x400 - 0xDC00) = c.toNat := by
    omega
  rw [numericEscape_pair hhigh hlow hfirst hsecond, hnumber, Char.ofNat_toNat]

/-- What spells a character is read as the character. -/
theorem stringChar_of_spellsChar {c : Char} {part : List Char} (h : SpellsChar c part)
    (rest : List Char) : stringChar (part ++ rest) = .ok (c, rest) := by
  cases h with
  | plain hquote hbackslash hc =>
    rw [List.singleton_append, stringChar]
    · rw [if_neg (Nat.not_lt.2 hc)]
    all_goals simp_all
  | letter hl =>
    rw [List.cons_append, List.singleton_append, stringChar]
    · rw [escapeLetter?_eq_some_iff.2 hl]
    · exact ne_of_mem_letters hl
  | number hn => exact numericEscape_of_isHex hn rest
  | pair hc hhigh hlow =>
    rw [List.cons_append, List.cons_append, List.append_assoc]
    exact numericEscape_of_isHex_pair hc hhigh hlow rest

/-- What spells a character does not start with a quotation mark. -/
theorem SpellsChar.exists_eq_cons {c : Char} {part : List Char} (h : SpellsChar c part) :
    ∃ d text, part = d :: text ∧ d ≠ '"' := by
  cases h with
  | plain hquote => exact ⟨_, _, rfl, hquote⟩
  | letter | number | pair => exact ⟨_, _, rfl, by decide⟩

/-- The body of a string goes on behind a part that is read as one character and does not start
with the mark that ends the string. -/
theorem stringBody_cons {α : Type} {char : Reader α} {d : Char} (tail : List Char)
    {text rest : List Char} {x : α} {xs : List α} (hd : d ≠ '"')
    (hread : char (d :: (tail ++ text)) = .ok (x, text))
    (hmore : stringBody char text = .ok (xs, rest)) :
    stringBody char (d :: (tail ++ text)) = .ok (x :: xs, rest) := by
  have hlt : text.length < (d :: (tail ++ text)).length := by
    simp only [List.length_cons, List.length_append]
    omega
  rw [stringBody]
  · simp only [hread, hlt, if_true, hmore]
    rfl
  · intro rest' heq
    exact hd (List.cons.inj heq).1

/-- The characters of a spelled string are read up to the mark that ends it. -/
theorem stringBody_of_spells {cs text : List Char} (h : Spells cs text) (rest : List Char) :
    stringBody stringChar (text ++ '"' :: rest) = .ok (cs, rest) := by
  induction h with
  | nil => rw [List.nil_append, stringBody]
  | @cons c cs part text hc h ih =>
    have hread := stringChar_of_spellsChar hc (text ++ '"' :: rest)
    obtain ⟨d, tail, rfl, hd⟩ := hc.exists_eq_cons
    rw [List.append_assoc]
    exact stringBody_cons tail hd hread ih

/-- A spelled string is read behind its first mark. -/
theorem readString_of_spells {s : String} {text : List Char} (h : Spells s.toList text)
    (rest : List Char) : readString (text ++ '"' :: rest) = .ok (s, rest) := by
  unfold readString
  rw [stringBody_of_spells h]
  show Except.ok (String.ofList s.toList, rest) = _
  rw [String.ofList_toList]

end RequiredFields.Json
