import Mathlib.Data.List.Forall2
import RequiredFields.Proofs.Json.Layout
import RequiredFields.Proofs.Json.Quotation
import RequiredFields.Proofs.Number.Numeral

/-!
# The texts of JSON

Which texts spell a string, and which texts are JSON values at all. A string has many spellings:
each of its characters may stand as it is or behind a backslash, by a letter or by number. Texts of
values come with any blanks around their parts. What is written is among them: a written string
spells its characters (`spells_writeChar`), and brackets stand around written elements and members
(`isEnclosed_writeIn_array`, `isEnclosed_writeIn_object`).
-/

namespace RequiredFields.Json

open Value (writeChar writeString withCommas itemsIn membersIn)

/-- The text spells the string between quotation marks. -/
def Quotes (s : String) (text : List Char) : Prop :=
  ∃ body, Spells s.toList body ∧ text = '"' :: (body ++ ['"'])

/-- What may stand between quotation marks where nobody asks for the string. It need not spell one:
the halves of a pair may stand alone. -/
inductive IsBody : List Char → Prop where
  /-- Nothing. -/
  | nil : IsBody []
  /-- A character as it is. -/
  | plain {c : Char} {text : List Char} (hquote : c ≠ '"') (hbackslash : c ≠ '\\')
    (hc : 0x20 ≤ c.toNat) (h : IsBody text) : IsBody (c :: text)
  /-- A letter behind a backslash. -/
  | letter {l c : Char} {text : List Char} (hl : (l, c) ∈ letters) (h : IsBody text) :
    IsBody ('\\' :: l :: text)
  /-- A number. -/
  | number {n : Nat} {digits text : List Char} (hn : IsHex n digits) (h : IsBody text) :
    IsBody ('\\' :: 'u' :: (digits ++ text))

/-! ## Values -/

/-- A text with blanks around it. -/
def Padded (P : List Char → Prop) (text : List Char) : Prop :=
  ∃ before inner after, IsGap before ∧ IsGap after ∧ P inner ∧
    text = before ++ (inner ++ after)

/-- Brackets around parts with commas between them. -/
def IsEnclosed (first last : Char) (parts : List (List Char)) (text : List Char) : Prop :=
  ∃ before after, IsGap before ∧ IsGap after ∧
    text = first :: (before ++ (withCommas parts ++ (after ++ [last])))

/-- A decimal number as it may stand in a JSON text: without a plus in front, with digits on both
sides of its point, and with no other digit behind a zero at its start. -/
def IsNumber (text : List Char) : Prop :=
  ∃ n : Numeral, n.text = text ∧ n.sign ≠ .plus ∧ n.whole ≠ [] ∧
    (n.whole.head? = some '0' → n.whole.length = 1) ∧ n.fraction ≠ some []

/-- A member of an object as it is written: its name and its value, with blanks around both. -/
def memberText (m : List Char × List Char) : List Char :=
  m.1 ++ ':' :: m.2

/-- A text between quotation marks. -/
def IsString (text : List Char) : Prop :=
  ∃ body, IsBody body ∧ text = '"' :: (body ++ ['"'])

/-- The texts of JSON values, with blanks around them. -/
inductive IsValue : List Char → Prop where
  /-- One of the three words. -/
  | word {text : List Char}
    (h : text ∈ [['n', 'u', 'l', 'l'], ['t', 'r', 'u', 'e'], ['f', 'a', 'l', 's', 'e']]) :
    IsValue text
  /-- A number. -/
  | number {text : List Char} (h : IsNumber text) : IsValue text
  /-- A string. -/
  | string {text : List Char} (h : IsString text) : IsValue text
  /-- An array. -/
  | array {parts : List (List Char)} {text : List Char} (h : ∀ part ∈ parts, IsValue part)
    (htext : IsEnclosed '[' ']' parts text) : IsValue text
  /-- An object. -/
  | object {members : List (List Char × List Char)} {text : List Char}
    (hnames : ∀ m ∈ members, Padded IsString m.1) (hvalues : ∀ m ∈ members, IsValue m.2)
    (htext : IsEnclosed '\x7b' '\x7d' (members.map memberText) text) : IsValue text
  /-- A value with blanks around it. -/
  | padded {before inner after : List Char} (hbefore : IsGap before) (hafter : IsGap after)
    (h : IsValue inner) : IsValue (before ++ (inner ++ after))

/-! ## Values of one shape -/

variable {α : Type}

/-- The word `null`, or a text for the value that is there. -/
def OrNull (P : α → List Char → Prop) : Option α → List Char → Prop
  | none, text => text = ['n', 'u', 'l', 'l']
  | some x, text => P x text

/-- An array of texts for the values. -/
def IsListOf (P : α → List Char → Prop) (xs : List α) (text : List Char) : Prop :=
  ∃ parts, List.Forall₂ (fun part x => Padded (P x) part) parts xs ∧ IsEnclosed '[' ']' parts text

/-- The text starts with a mark of its own, not like the word `null`. -/
def StartsUnlikeNull (text : List Char) : Prop :=
  ∃ c tail, text = c :: tail ∧ isBlank c = false ∧ c ≠ 'n'

/-- No quotation starts like the word `null`. -/
theorem Quotes.startsUnlikeNull {s : String} {text : List Char} (h : Quotes s text) :
    StartsUnlikeNull text := by
  obtain ⟨body, -, rfl⟩ := h
  exact ⟨_, _, rfl, rfl, by decide⟩

/-! ## What is written -/

/-- A written string stands between quotation marks. -/
theorem quotes_writeString (s : String) : Quotes s (Value.writeString s) :=
  ⟨_, spells_writeChar s.toList, rfl⟩

/-- In every layout brackets stand around the parts of an array or object. -/
theorem isEnclosed_bracketed (l : Layout) (level : Nat) (first last : Char)
    (parts : List (List Char)) :
    IsEnclosed first last (parts.map (l.line (level + 1) ++ ·))
      (l.bracketed level first last parts) := by
  cases parts with
  | nil => exact ⟨[], [], List.forall_mem_nil _, List.forall_mem_nil _, rfl⟩
  | cons part parts =>
    refine ⟨[], l.line level, List.forall_mem_nil _, l.isGap_line level, ?_⟩
    simp [Layout.bracketed]

/-- A text stands behind blanks. -/
theorem padded_gap_append {P : List Char → Prop} {gap text : List Char} (hgap : IsGap gap)
    (h : P text) : Padded P (gap ++ text) :=
  ⟨gap, text, [], hgap, List.forall_mem_nil _, h, by rw [List.append_nil]⟩

/-- Brackets stand around the written elements of an array. -/
theorem isEnclosed_writeIn_array (l : Layout) (level : Nat) (xs : List Value) :
    IsEnclosed '[' ']' (xs.map fun x => l.line (level + 1) ++ x.writeIn l (level + 1))
      ((Value.array xs).writeIn l level) := by
  have hparts : itemsIn l (level + 1) xs = xs.map (Value.writeIn l (level + 1)) := by
    induction xs with
    | nil => rfl
    | cons x xs ih => rw [itemsIn, ih, List.map_cons]
  have h := isEnclosed_bracketed l level '[' ']' (itemsIn l (level + 1) xs)
  rw [hparts, List.map_map] at h
  rwa [Value.writeIn, hparts]

/-- Brackets stand around the written members of an object. -/
theorem isEnclosed_writeIn_object (l : Layout) (level : Nat) (ms : List (String × Value)) :
    IsEnclosed '\x7b' '\x7d'
      (ms.map fun m => memberText
        (l.line (level + 1) ++ writeString m.1, l.space ++ m.2.writeIn l (level + 1)))
      ((Value.object ms).writeIn l level) := by
  have hparts : (membersIn l (level + 1) ms).map (l.line (level + 1) ++ ·) =
      ms.map fun m => memberText
        (l.line (level + 1) ++ writeString m.1, l.space ++ m.2.writeIn l (level + 1)) := by
    induction ms with
    | nil => rfl
    | cons m ms ih =>
      rw [membersIn, List.map_cons, ih, List.map_cons]
      simp [memberText]
  rw [Value.writeIn, ← hparts]
  exact isEnclosed_bracketed l level '\x7b' '\x7d' _

/-- What is written for an optional string stands for it. -/
theorem orNull_writeIn_ofOption (s : Option String) (l : Layout) (level : Nat) :
    OrNull Quotes s ((Value.ofOption s).writeIn l level) := by
  cases s with
  | none =>
    show Value.null.writeIn l level = ['n', 'u', 'l', 'l']
    rw [Value.writeIn]
  | some s => exact quotes_writeString s

/-- What is written for a list of strings stands for it. -/
theorem isListOf_writeIn_array (xs : List String) (l : Layout) (level : Nat) :
    IsListOf Quotes xs ((Value.array (xs.map .string)).writeIn l level) := by
  refine ⟨_, ?_, isEnclosed_writeIn_array l level _⟩
  rw [List.map_map, List.forall₂_map_left_iff, List.forall₂_same]
  intro x _
  exact padded_gap_append (l.isGap_line (level + 1)) (quotes_writeString x)

end RequiredFields.Json
