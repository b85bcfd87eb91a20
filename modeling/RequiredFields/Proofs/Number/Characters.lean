import Mathlib
import RequiredFields.Number.Shortest
import RequiredFields.Proofs.Text.Trim

/-!
# The characters of numbers

Numbers are read from letters, digits, signs and points alone (`isNumeral_of_decimalOfText?`,
`isNumeral_of_ofText?`), and written in them (`isNumeral_of_mem_toString`,
`isNumeral_of_mem_positional`). None of these characters is a blank, so such a text is trimmed
already.
-/

namespace RequiredFields

open Text

/-- The characters that numbers are written in. -/
def isNumeral (c : Char) : Bool :=
  c.isAlphanum || c == '+' || c == '-' || c == '.'

/-- A digit is one of these characters. -/
theorem isNumeral_of_isDigit {c : Char} (h : c.isDigit = true) : isNumeral c = true := by
  simp [isNumeral, Char.isAlphanum, h]

/-- None of these characters is a blank. -/
theorem isBlank_of_isNumeral {c : Char} (h : isNumeral c = true) : isBlank c = false := by
  -- The blanks of ASCII all come before 33, and no other blank comes before 128.
  have hrange : ∀ low high : Nat, 33 ≤ low → high < 128 → low ≤ c.toNat ∧ c.toNat ≤ high →
      isBlank c = false := by
    intro low high hlow hhigh hc
    simp only [isBlank, Bool.or_eq_false_iff, Bool.and_eq_false_iff, decide_eq_false_iff_not,
      beq_eq_false_iff_ne]
    omega
  simp only [isNumeral, Char.isAlphanum, Char.isAlpha, Char.isUpper, Char.isLower, Char.isDigit,
    UInt32.le_iff_toNat_le, Bool.or_eq_true, Bool.and_eq_true, decide_eq_true_eq, beq_iff_eq] at h
  obtain ((((h | h) | h) | rfl) | rfl) | rfl := h
  · exact hrange 65 90 (by omega) (by omega) h
  · exact hrange 97 122 (by omega) (by omega) h
  · exact hrange 48 57 (by omega) (by omega) h
  · rfl
  · rfl
  · rfl

/-- A text without blanks is trimmed already. -/
theorem trim_of_forall_isBlank {text : List Char} (h : ∀ c ∈ text, isBlank c = false) :
    trim text = text := by
  have hstart : ∀ l : List Char, (∀ c ∈ l, isBlank c = false) → l.dropWhile isBlank = l := by
    intro l hl
    cases l with
    | nil => rfl
    | cons c l => rw [List.dropWhile_cons_of_neg (by simp [hl c List.mem_cons_self])]
  have hend : ∀ c ∈ text.reverse, isBlank c = false := fun c hc => h c (List.mem_reverse.1 hc)
  rw [trim, trimStart, hstart text h, trimEnd, hstart _ hend, List.reverse_reverse]

/-! ## Reading -/

/-- A sign is a numeral, so a text has no others if there are none behind its sign. -/
theorem isNumeral_of_takeSign {text : List Char}
    (h : ∀ c ∈ (takeSign text).2, isNumeral c = true) : ∀ c ∈ text, isNumeral c = true := by
  unfold takeSign at h
  split at h
  · exact List.forall_mem_cons.2 ⟨rfl, h⟩
  · exact List.forall_mem_cons.2 ⟨rfl, h⟩
  · exact h

/-- Only digits write a number in the decimal system. -/
theorem isDigit_of_natOf? {digits : List Char} {n : Nat}
    (h : Digit.natOf? 10 Digit.decimal? digits = some n) : ∀ c ∈ digits, c.isDigit = true := by
  unfold Digit.natOf? at h
  generalize 0 = start at h
  -- The fold goes on from the number read so far, so the induction is for every start.
  induction digits generalizing start with
  | nil => exact List.forall_mem_nil _
  | cons c digits ih =>
    rw [List.foldlM_cons] at h
    obtain ⟨next, hnext, h⟩ := Option.bind_eq_some_iff.1 h
    obtain ⟨d, hd, -⟩ := Option.map_eq_some_iff.1 hnext
    have hc : c.isDigit = true := by
      by_contra hc
      rw [Digit.decimal?, if_neg hc] at hd
      contradiction
    exact List.forall_mem_cons.2 ⟨hc, ih next h⟩

/-- A whole number is read from numerals. -/
theorem isNumeral_of_decimalOfText? {text : List Char} {n : Int}
    (h : decimalOfText? text = some n) : ∀ c ∈ text, isNumeral c = true := by
  refine isNumeral_of_takeSign fun c hc => isNumeral_of_isDigit ?_
  unfold decimalOfText? integerOfText? at h
  split at h
  next negative digits hsign =>
  rw [hsign] at hc
  dsimp only at h
  split at h
  · contradiction
  · obtain ⟨m, hm, -⟩ := Option.bind_eq_some_iff.1 h
    exact isDigit_of_natOf? hm c hc

/-- No whole number is read from nothing. -/
theorem ne_nil_of_decimalOfText? {text : List Char} {n : Int} (h : decimalOfText? text = some n) :
    text ≠ [] := by
  have hnone : decimalOfText? [] = none := rfl
  rintro rfl
  exact Option.some_ne_none n (h.symm.trans hnone)

/-- An exponent is read from numerals. -/
theorem isNumeral_of_exponent? {text : List Char} {e : Int}
    (h : Decimal.exponent? text = some e) : ∀ c ∈ text, isNumeral c = true := by
  cases text with
  | nil => exact List.forall_mem_nil _
  | cons c text =>
    simp only [Decimal.exponent?] at h
    by_cases hmark : c = 'e' ∨ c = 'E'
    · rw [if_pos hmark] at h
      have hdigits : ∀ d ∈ (takeSign text).2, d.isDigit = true := by
        by_contra hdigits
        -- Without digits, or with anything else among them, there is no exponent.
        have hnone : ((takeSign text).2.isEmpty || !(takeSign text).2.all Char.isDigit) = true := by
          simp only [Bool.or_eq_true, Bool.not_eq_true', ← Bool.not_eq_true, List.all_eq_true]
          exact .inr hdigits
        rw [if_pos hnone] at h
        contradiction
      have hc : isNumeral c = true := by
        obtain rfl | rfl := hmark <;> rfl
      exact List.forall_mem_cons.2
        ⟨hc, isNumeral_of_takeSign fun d hd => isNumeral_of_isDigit (hdigits d hd)⟩
    · rw [if_neg hmark] at h
      contradiction

/-- Digits in front are numerals. -/
theorem isNumeral_of_dropWhile {text : List Char}
    (h : ∀ c ∈ text.dropWhile Char.isDigit, isNumeral c = true) :
    ∀ c ∈ text, isNumeral c = true := by
  rw [← List.takeWhile_append_dropWhile (p := Char.isDigit) (l := text)]
  exact List.forall_mem_append.2
    ⟨fun c hc => isNumeral_of_isDigit (List.mem_takeWhile_imp hc), h⟩

/-- A fraction in front consists of numerals. -/
theorem isNumeral_of_takeFraction {text : List Char}
    (h : ∀ c ∈ (Decimal.takeFraction text).2, isNumeral c = true) :
    ∀ c ∈ text, isNumeral c = true := by
  unfold Decimal.takeFraction at h
  split at h
  · exact List.forall_mem_cons.2 ⟨rfl, isNumeral_of_dropWhile h⟩
  · exact h

/-- A decimal number is read from numerals. -/
theorem isNumeral_of_decimal {text : List Char} {d : Decimal} (h : Decimal.ofText? text = some d) :
    ∀ c ∈ text, isNumeral c = true := by
  refine isNumeral_of_takeSign (isNumeral_of_dropWhile (isNumeral_of_takeFraction ?_))
  simp only [Decimal.ofText?, Decimal.unsigned?] at h
  split at h
  · contradiction
  · obtain ⟨e, he, -⟩ := Option.map_eq_some_iff.1 h
    exact isNumeral_of_exponent? he

/-- The lower case of a letter is a letter, and other characters have none. -/
theorem isNumeral_toLower {c : Char} (h : isNumeral c.toLower = true) : isNumeral c = true := by
  unfold Char.toLower at h
  split at h
  next hupper =>
    have hletter : c.isUpper = true := by
      simpa [Char.isUpper] using hupper
    simp [isNumeral, Char.isAlphanum, Char.isAlpha, hletter]
  · exact h

/-- A word is read from numerals, in any case. -/
theorem isNumeral_of_map_toLower {text : List Char} {word : String}
    (hword : ∀ c ∈ word.toList, isNumeral c = true) (h : text.map Char.toLower = word.toList) :
    ∀ c ∈ text, isNumeral c = true := by
  intro c hc
  apply isNumeral_toLower
  rw [← h] at hword
  exact hword _ (List.mem_map_of_mem hc)

/-- A number is read from numerals. -/
theorem isNumeral_of_ofText? {text : List Char} {x : Binary64}
    (h : Binary64.ofText? text = some x) : ∀ c ∈ text, isNumeral c = true := by
  unfold Binary64.ofText? at h
  split at h
  next d hd => exact isNumeral_of_decimal hd
  · refine isNumeral_of_takeSign ?_
    have hword : ∀ word ∈ ["inf", "infinity", "nan"], word.toList.all isNumeral = true := by
      decide
    have hread : ∃ word ∈ ["inf", "infinity", "nan"],
        Binary64.isWord (takeSign text).2 word = true := by
      by_contra hnone
      push Not at hnone
      simp only [hnone "inf" (by simp), hnone "infinity" (by simp), hnone "nan" (by simp)] at h
      simp at h
    obtain ⟨word, hmem, hread⟩ := hread
    exact isNumeral_of_map_toLower (List.all_eq_true.1 (hword word hmem)) (eq_of_beq hread)

/-- No number is read from nothing. -/
theorem ne_nil_of_ofText? {text : List Char} {x : Binary64} (h : Binary64.ofText? text = some x) :
    text ≠ [] := by
  have hnone : Binary64.ofText? [] = none := rfl
  rintro rfl
  exact Option.some_ne_none x (h.symm.trans hnone)

/-! ## Writing -/

/-- Decimal digits are numerals. -/
theorem isNumeral_of_mem_toDigits {n : Nat} : ∀ c ∈ Nat.toDigits 10 n, isNumeral c = true :=
  fun _ hc => isNumeral_of_isDigit (Nat.isDigit_of_mem_toDigits (by omega) (by omega) hc)

/-- A whole number is written in numerals. -/
theorem isNumeral_of_mem_toString (n : Int) : ∀ c ∈ (toString n).toList, isNumeral c = true := by
  have hnat : ∀ m : Nat, ∀ c ∈ m.repr.toList, isNumeral c = true := by
    intro m
    rw [Nat.repr_eq_ofList_toDigits, String.toList_ofList]
    exact isNumeral_of_mem_toDigits
  cases n with
  | ofNat m => exact hnat m
  | negSucc m =>
    have hwrite : (toString (Int.negSucc m)).toList = '-' :: (m + 1).repr.toList := by
      show ("-" ++ (m + 1).repr).toList = _
      rw [String.toList_append]
      rfl
    rw [hwrite]
    exact List.forall_mem_cons.2 ⟨rfl, hnat (m + 1)⟩

/-- A whole number is not written as an empty text. -/
theorem toList_toString_ne_nil (n : Int) : (toString n).toList ≠ [] := by
  cases n with
  | ofNat m =>
    show m.repr.toList ≠ []
    rw [Nat.repr_eq_ofList_toDigits, String.toList_ofList]
    exact Nat.toDigits_ne_nil
  | negSucc m =>
    show ("-" ++ (m + 1).repr).toList ≠ []
    rw [String.toList_append]
    exact List.cons_ne_nil _ _

/-- A sign is a numeral. -/
theorem isNumeral_of_mem_signText (negative : Bool) :
    ∀ c ∈ Binary64.signText negative, isNumeral c = true := by
  cases negative with
  | true => exact List.all_eq_true.1 rfl
  | false => exact List.forall_mem_nil _

/-- Digits with a point among them or zeros around them are numerals. -/
theorem isNumeral_of_mem_setPoint {digits : List Char}
    (h : ∀ c ∈ digits, isNumeral c = true) (point : Int) :
    ∀ c ∈ Binary64.setPoint digits point [], isNumeral c = true := by
  have hzeros : ∀ n, ∀ c ∈ List.replicate n '0', isNumeral c = true := by
    intro n c hc
    rw [List.eq_of_mem_replicate hc]
    rfl
  unfold Binary64.setPoint
  split_ifs
  · rw [List.append_nil]
    exact List.forall_mem_append.2 ⟨h, hzeros _⟩
  · refine List.forall_mem_append.2 ⟨fun c hc => h c (List.mem_of_mem_take hc), ?_⟩
    exact List.forall_mem_cons.2 ⟨rfl, fun c hc => h c (List.mem_of_mem_drop hc)⟩
  · exact List.forall_mem_append.2
      ⟨List.forall_mem_cons.2 ⟨rfl, List.forall_mem_cons.2 ⟨rfl, hzeros _⟩⟩, h⟩

/-- Digits with a point among them or zeros around them are not empty. -/
theorem setPoint_ne_nil {digits : List Char} (h : digits ≠ []) (point : Int) :
    Binary64.setPoint digits point [] ≠ [] := by
  unfold Binary64.setPoint
  split_ifs <;> simp [h]

/-- A number is not written as an empty text. -/
theorem toList_positional_ne_nil (x : Binary64) : x.positional.toList ≠ [] := by
  unfold Binary64.positional
  split
  · simp
  · dsimp only
    rw [String.toList_ofList]
    exact List.append_ne_nil_of_right_ne_nil _ (setPoint_ne_nil Nat.toDigits_ne_nil _)
  · simp
  · decide

/-- A number is written in numerals, without an exponent. -/
theorem isNumeral_of_mem_positional (x : Binary64) :
    ∀ c ∈ x.positional.toList, isNumeral c = true := by
  unfold Binary64.positional
  split
  · rw [String.toList_ofList]
    exact List.forall_mem_append.2 ⟨isNumeral_of_mem_signText _, List.all_eq_true.1 rfl⟩
  · dsimp only
    rw [String.toList_ofList]
    exact List.forall_mem_append.2
      ⟨isNumeral_of_mem_signText _, isNumeral_of_mem_setPoint isNumeral_of_mem_toDigits _⟩
  · rw [String.toList_ofList]
    exact List.forall_mem_append.2 ⟨isNumeral_of_mem_signText _, List.all_eq_true.1 rfl⟩
  · exact List.all_eq_true.1 (by decide)

end RequiredFields
