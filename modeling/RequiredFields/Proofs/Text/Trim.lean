import Mathlib.Data.List.DropRight
import RequiredFields.Text.Alphanumeric
import RequiredFields.Text.Blank

/-!
# Trimming

A text is blanks, its trimmed form, and blanks (`exists_eq_append_trim`), and blanks at either end
do not change the trimmed form (`trim_append_left`, `trim_append_right`). What else is said about
trimming follows from these: it is idempotent, it leaves a text that no blank starts or ends alone,
and it empties the blank texts only. No blank continues a word.
-/

namespace RequiredFields.Text

/-- A text is blank exactly when all its characters are. -/
theorem isBlankText_iff {text : List Char} :
    isBlankText text = true ↔ ∀ c ∈ text, isBlank c = true :=
  List.all_eq_true

/-- Blanks in front do not change the trimmed text. -/
theorem trim_append_left {l : List Char} (hl : isBlankText l = true) (text : List Char) :
    trim (l ++ text) = trim text := by
  unfold trim trimStart
  rw [List.dropWhile_append_of_pos (isBlankText_iff.1 hl)]

/-- Blanks at the end do not change a text trimmed at its end. -/
theorem trimEnd_append {r : List Char} (hr : isBlankText r = true) (text : List Char) :
    trimEnd (text ++ r) = trimEnd text := by
  have hr' : ∀ c ∈ r.reverse, isBlank c = true := fun c hc =>
    isBlankText_iff.1 hr c (List.mem_reverse.1 hc)
  unfold trimEnd
  rw [List.reverse_append, List.dropWhile_append_of_pos hr']

/-- Blanks at the end do not change the trimmed text. -/
theorem trim_append_right {r : List Char} (hr : isBlankText r = true) (text : List Char) :
    trim (text ++ r) = trim text := by
  unfold trim trimStart
  rw [List.dropWhile_append]
  split
  · next h =>
    rw [List.isEmpty_iff.1 h, ← List.nil_append (r.dropWhile isBlank)]
    refine trimEnd_append ?_ []
    exact isBlankText_iff.2 fun c hc =>
      isBlankText_iff.1 hr c ((List.dropWhile_sublist _).subset hc)
  · exact trimEnd_append hr _

/-- A text is its trimmed form between blanks. -/
theorem exists_eq_append_trim (text : List Char) :
    ∃ l r, isBlankText l = true ∧ isBlankText r = true ∧ text = l ++ trim text ++ r := by
  refine ⟨text.takeWhile isBlank, (trimStart text).rtakeWhile isBlank, ?_, ?_, ?_⟩
  · exact isBlankText_iff.2 fun c hc => List.mem_takeWhile_imp hc
  · exact isBlankText_iff.2 fun c hc => List.mem_rtakeWhile_imp hc
  · have hend : trim text ++ (trimStart text).rtakeWhile isBlank = trimStart text :=
      List.rdropWhile_append_rtakeWhile
    rw [List.append_assoc, hend]
    exact List.takeWhile_append_dropWhile.symm

/-- Trimming a second time changes nothing. -/
theorem trim_trim (text : List Char) : trim (trim text) = trim text := by
  obtain ⟨l, r, hl, hr, h⟩ := exists_eq_append_trim text
  conv_rhs => rw [h, trim_append_right hr, trim_append_left hl]

/-- The trimmed text has no other characters than the text. -/
theorem mem_of_mem_trim {c : Char} {text : List Char} (h : c ∈ trim text) : c ∈ text := by
  obtain ⟨l, r, -, -, htext⟩ := exists_eq_append_trim text
  rw [htext]
  simp [h]

/-- Trimming makes no text longer. -/
theorem length_trim_le (text : List Char) : (trim text).length ≤ text.length := by
  obtain ⟨l, r, -, -, h⟩ := exists_eq_append_trim text
  conv_rhs => rw [h]
  simp only [List.length_append]
  omega

/-- Only blank texts are trimmed to nothing. -/
theorem trim_eq_nil_iff {text : List Char} : trim text = [] ↔ isBlankText text = true := by
  constructor
  · intro h
    obtain ⟨l, r, hl, hr, htext⟩ := exists_eq_append_trim text
    rw [htext, h, isBlankText_iff]
    intro c hc
    rcases List.mem_append.1 hc with hc | hc
    · exact isBlankText_iff.1 hl c (by simpa using hc)
    · exact isBlankText_iff.1 hr c hc
  · intro h
    rw [← List.append_nil text, trim_append_left h]
    rfl

/-- A trimmed text starts with no blank. -/
theorem isBlank_head {c : Char} {text : List Char} (h : trim (c :: text) = c :: text) :
    isBlank c = false := by
  by_contra hc
  have hb : isBlankText [c] = true := by simpa [isBlankText] using hc
  have hle := length_trim_le text
  rw [← trim_append_left hb text, List.singleton_append, h, List.length_cons] at hle
  omega

/-- A trimmed text ends with no blank. -/
theorem isBlank_last {c : Char} {text : List Char} (h : trim (text ++ [c]) = text ++ [c]) :
    isBlank c = false := by
  by_contra hc
  have hb : isBlankText [c] = true := by simpa [isBlankText] using hc
  have hle := length_trim_le text
  rw [← trim_append_right hb text, h, List.length_append, List.length_singleton] at hle
  omega

/-- A text that starts and ends with a trimmed text is trimmed. -/
theorem trim_append_append {a b : List Char} (ha : trim a = a) (hb : trim b = b) (ha' : a ≠ [])
    (hb' : b ≠ []) (m : List Char) : trim (a ++ m ++ b) = a ++ m ++ b := by
  obtain ⟨c, a, rfl⟩ := List.exists_cons_of_ne_nil ha'
  obtain ⟨b, d, rfl⟩ := List.eq_nil_or_concat' b |>.resolve_left hb'
  have hc := isBlank_head ha
  have hd := isBlank_last hb
  unfold trim trimStart trimEnd
  rw [List.cons_append, List.cons_append, List.dropWhile_cons_of_neg (by simp [hc])]
  have hrev : (c :: (a ++ m ++ (b ++ [d]))).reverse = d :: (c :: (a ++ m ++ b)).reverse := by
    simp
  rw [hrev, List.dropWhile_cons_of_neg (by simp [hd]), ← hrev, List.reverse_reverse]

/-- No letter, digit or low line is a blank. -/
theorem isWordChar_of_isBlank {c : Char} (h : isBlank c = true) : isWordChar c = false := by
  -- The blanks by number, so that the table of letters and digits is evaluated at each of them.
  have hpoints : ∀ n ∈ [0x9, 0xA, 0xB, 0xC, 0xD, 0x20, 0x85, 0xA0, 0x1680, 0x2000, 0x2001, 0x2002,
      0x2003, 0x2004, 0x2005, 0x2006, 0x2007, 0x2008, 0x2009, 0x200A, 0x2028, 0x2029, 0x202F,
      0x205F, 0x3000], inRanges alphanumericRanges n = false ∧ n ≠ '_'.toNat := by
    decide +kernel
  simp only [isBlank, Bool.or_eq_true, Bool.and_eq_true, decide_eq_true_eq, beq_iff_eq] at h
  obtain ⟨hrange, hlow⟩ := hpoints c.toNat (by simp only [List.mem_cons]; grind)
  have hne : c ≠ '_' := fun hc => hlow (by rw [hc])
  simp [isWordChar, isAlphanumeric, hrange, hne]

end RequiredFields.Text
