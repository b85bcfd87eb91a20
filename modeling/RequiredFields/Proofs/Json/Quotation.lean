import Mathlib.Tactic.IntervalCases
import RequiredFields.Json.Value
import RequiredFields.Proofs.Json.Spelling

/-!
# Written strings are read back

A string is written character by character, and what is written is one of the spellings of the
string (`spells_writeChar`). So it is read back, whatever characters it has
(`readString_writeChar`).
-/

namespace RequiredFields.Json

open Value (writeChar writeString fourHexDigits)

/-- The four digits of a control character are read back. -/
theorem hexNumber_fourHexDigits {n : Nat} (hn : n < 0x20) (rest : List Char) :
    hexNumber (fourHexDigits n ++ rest) = .ok (n, rest) := by
  interval_cases n <;> rfl

/-- The ways to write a character: behind a backslash, by its number, or as it is. -/
theorem writeChar_cases (c : Char) :
    (∃ letter, escapeLetter? letter = some c ∧ writeChar c = ['\\', letter]) ∨
    (c.toNat < 0x20 ∧ writeChar c = '\\' :: 'u' :: fourHexDigits c.toNat) ∨
    (c ≠ '"' ∧ c ≠ '\\' ∧ ¬ c.toNat < 0x20 ∧ writeChar c = [c]) := by
  unfold writeChar
  split
  · next h => exact .inl ⟨'"', by rw [h]; rfl, rfl⟩
  split
  · next h => exact .inl ⟨'\\', by rw [h]; rfl, rfl⟩
  split
  · next h => exact .inl ⟨'b', by rw [h]; rfl, rfl⟩
  split
  · next h => exact .inl ⟨'f', by rw [h]; rfl, rfl⟩
  split
  · next h => exact .inl ⟨'n', by rw [h]; rfl, rfl⟩
  split
  · next h => exact .inl ⟨'r', by rw [h]; rfl, rfl⟩
  split
  · next h => exact .inl ⟨'t', by rw [h]; rfl, rfl⟩
  split
  · next h => exact .inr (.inl ⟨h, rfl⟩)
  · next hquote hbackslash _ _ _ _ _ h => exact .inr (.inr ⟨hquote, hbackslash, h, rfl⟩)

/-- A written character spells the character. -/
theorem spellsChar_writeChar (c : Char) : SpellsChar c (writeChar c) := by
  rcases writeChar_cases c with ⟨letter, hc, h⟩ | ⟨hc, h⟩ | ⟨hquote, hbackslash, hc, h⟩
  · rw [h]
    exact .letter (escapeLetter?_eq_some_iff.1 hc)
  · have hread := hexNumber_fourHexDigits hc []
    rw [List.append_nil] at hread
    rw [h]
    exact .number (isHex_of_hexNumber hread)
  · rw [h]
    exact .plain hquote hbackslash (Nat.le_of_not_lt hc)

/-- Written characters spell the characters. -/
theorem spells_writeChar (cs : List Char) : Spells cs (cs.flatMap writeChar) := by
  induction cs with
  | nil => exact .nil
  | cons c cs ih => exact .cons (spellsChar_writeChar c) ih

/-- A written string is read back behind its first mark. -/
theorem readString_writeChar (s : String) (rest : List Char) :
    readString (s.toList.flatMap writeChar ++ '"' :: rest) = .ok (s, rest) :=
  readString_of_spells (spells_writeChar s.toList) rest

end RequiredFields.Json
