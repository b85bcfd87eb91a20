import Mathlib.Data.List.Forall2
import RequiredFields.Directive.Printer
import RequiredFields.Proofs.Text.Trim

/-!
# Lists of values, read and written

Trimming a text before it is split changes no value (`splitValues_trim`): blanks at its ends go to
the first and the last piece, which are trimmed anyway. A written list of values is split into the
same values (`splitValues_joinValues`). The separators stand between blanks, so neither a backslash
at the end of a value nor a comma at the start of the next one meets them. The list of one empty
value is the only list of trimmed values that no text has (`splitValues_ne`), since a blank text has
no values.
-/

namespace RequiredFields.Directive

open Text

/-- A blank is neither a comma nor a backslash. -/
theorem isBlank_ne {c : Char} (h : isBlank c = true) : c ≠ ',' ∧ c ≠ '\\' := by
  constructor
  · rintro rfl
    contradiction
  · rintro rfl
    contradiction

/-- A comma behind a backslash goes to the first piece, without the backslash. -/
theorem cutAtCommas_escaped (text : List Char) :
    cutAtCommas ('\\' :: ',' :: text) = (',' :: (cutAtCommas text).1, (cutAtCommas text).2) := by
  rw [cutAtCommas]

/-- Any other comma ends the first piece. -/
theorem cutAtCommas_comma (text : List Char) :
    cutAtCommas (',' :: text) = ([], (cutAtCommas text).1 :: (cutAtCommas text).2) := by
  rw [cutAtCommas]

/-- A character other than a comma goes to the first piece, a backslash only when no comma
follows. -/
theorem cutAtCommas_cons {c : Char} {text : List Char} (hc : c ≠ ',')
    (h : ∀ rest, c = '\\' → text ≠ ',' :: rest) :
    cutAtCommas (c :: text) = (c :: (cutAtCommas text).1, (cutAtCommas text).2) := by
  rw [cutAtCommas]
  · exact h
  · exact hc

/-- Blanks in front go to the first piece. -/
theorem cutAtCommas_append_left {l : List Char} (hl : isBlankText l = true) (text : List Char) :
    cutAtCommas (l ++ text) = (l ++ (cutAtCommas text).1, (cutAtCommas text).2) := by
  induction l with
  | nil => rfl
  | cons c l ih =>
    obtain ⟨hc, hl⟩ := List.forall_mem_cons.1 (isBlankText_iff.1 hl)
    obtain ⟨hcomma, hesc⟩ := isBlank_ne hc
    rw [List.cons_append, cutAtCommas_cons hcomma fun _ h => absurd h hesc,
      ih (isBlankText_iff.2 hl)]
    rfl

/-- What a text becomes when blanks are added at its end. -/
def Extends (a b : List Char) : Prop :=
  ∃ r, isBlankText r = true ∧ b = a ++ r

/-- A character in front of both texts leaves the blanks at the end. -/
theorem Extends.cons {a b : List Char} (h : Extends a b) (c : Char) :
    Extends (c :: a) (c :: b) := by
  obtain ⟨r, hr, rfl⟩ := h
  exact ⟨r, hr, rfl⟩

/-- Pieces with blanks added at their ends are trimmed to the same texts. -/
theorem map_trim_of_extends {as bs : List (List Char)} (h : List.Forall₂ Extends as bs) :
    bs.map trim = as.map trim := by
  induction h with
  | nil => rfl
  | cons hab _ ih =>
    obtain ⟨r, hr, rfl⟩ := hab
    rw [List.map_cons, List.map_cons, ih, trim_append_right hr]

/-- Blanks at the end go to the last piece. -/
theorem cutAtCommas_append_right {r : List Char} (hr : isBlankText r = true) (text : List Char) :
    List.Forall₂ Extends ((cutAtCommas text).1 :: (cutAtCommas text).2)
      ((cutAtCommas (text ++ r)).1 :: (cutAtCommas (text ++ r)).2) := by
  induction text using cutAtCommas.induct with
  | case1 =>
    have h := cutAtCommas_append_left hr []
    rw [List.append_nil] at h
    rw [List.nil_append, h]
    exact .cons ⟨r, hr, by simp [cutAtCommas]⟩ .nil
  | case2 text _ _ _ ih =>
    obtain ⟨hfirst, hothers⟩ := List.forall₂_cons.1 ih
    rw [List.cons_append, List.cons_append, cutAtCommas_escaped, cutAtCommas_escaped]
    exact .cons (hfirst.cons ',') hothers
  | case3 text _ _ _ ih =>
    have hnil : Extends [] [] := ⟨[], rfl, rfl⟩
    rw [List.cons_append, cutAtCommas_comma, cutAtCommas_comma]
    exact .cons hnil ih
  | case4 c text hesc hcomma _ _ _ ih =>
    obtain ⟨hfirst, hothers⟩ := List.forall₂_cons.1 ih
    -- A comma behind `c` would be in the text, since the blanks have none.
    have hesc' : ∀ rest, c = '\\' → text ++ r ≠ ',' :: rest := by
      intro rest hc htext
      cases text with
      | nil =>
        rw [List.nil_append] at htext
        exact absurd (isBlankText_iff.1 hr ',' (by simp [htext])) (by decide)
      | cons d text => exact hesc text hc (by rw [(List.cons.inj htext).1])
    rw [List.cons_append, cutAtCommas_cons hcomma hesc, cutAtCommas_cons hcomma hesc']
    exact .cons (hfirst.cons c) hothers

/-- The pieces of a text without the blanks at their ends are those of the text with blanks added
at its own ends. -/
theorem map_trim_cutAtCommas {l r : List Char} (hl : isBlankText l = true)
    (hr : isBlankText r = true) (text : List Char) :
    ((cutAtCommas (l ++ text ++ r)).1 :: (cutAtCommas (l ++ text ++ r)).2).map trim =
      ((cutAtCommas text).1 :: (cutAtCommas text).2).map trim := by
  rw [List.append_assoc, cutAtCommas_append_left hl, List.map_cons, trim_append_left hl,
    ← List.map_cons]
  exact map_trim_of_extends (cutAtCommas_append_right hr text)

/-- Trimming a text first does not change its values. -/
theorem splitValues_trim (text : List Char) : splitValues (trim text) = splitValues text := by
  obtain ⟨l, r, hl, hr, h⟩ := exists_eq_append_trim text
  have hblank : isBlankText (trim text) = isBlankText text := by
    rw [Bool.eq_iff_iff, ← trim_eq_nil_iff, ← trim_eq_nil_iff, trim_trim]
  have hpieces := map_trim_cutAtCommas hl hr (trim text)
  rw [← h] at hpieces
  unfold splitValues
  rw [hblank]
  split
  · rfl
  · exact hpieces.symm

/-- Values are trimmed. -/
theorem trim_of_mem_splitValues {value text : List Char} (h : value ∈ splitValues text) :
    trim value = value := by
  unfold splitValues at h
  split at h
  · contradiction
  · obtain ⟨piece, -, rfl⟩ := List.mem_map.1 h
    exact trim_trim piece

/-- A text with no comma between values is blank if its only piece is. -/
theorem isBlankText_of_cutAtCommas {text : List Char} (hothers : (cutAtCommas text).2 = [])
    (hfirst : isBlankText (cutAtCommas text).1 = true) : isBlankText text = true := by
  -- Only the last case is left: a protected comma is not blank, and any other ends the value.
  induction text using cutAtCommas.induct with
  | case1 => rfl
  | case2 text _ _ _ ih =>
    rw [cutAtCommas_escaped] at hfirst
    exact absurd (isBlankText_iff.1 hfirst ',' (by simp)) (by decide)
  | case3 text _ _ _ ih =>
    rw [cutAtCommas_comma] at hothers
    contradiction
  | case4 c text hesc hcomma _ _ _ ih =>
    rw [cutAtCommas_cons hcomma hesc] at hfirst hothers
    obtain ⟨hc, hfirst⟩ := List.forall_mem_cons.1 (isBlankText_iff.1 hfirst)
    have hrest := ih hothers (isBlankText_iff.2 hfirst)
    exact isBlankText_iff.2 (List.forall_mem_cons.2 ⟨hc, isBlankText_iff.1 hrest⟩)

/-- No text has one value that is empty, and no other. -/
theorem splitValues_ne (text : List Char) : splitValues text ≠ [[]] := by
  intro h
  unfold splitValues at h
  split at h
  · contradiction
  · next hblank =>
    obtain ⟨hfirst, hothers⟩ := List.cons.inj h
    exact hblank (isBlankText_of_cutAtCommas (List.map_eq_nil_iff.1 hothers)
      (trim_eq_nil_iff.1 hfirst))

/-- A written value starts with no comma. -/
theorem protectCommas_append_ne (value : List Char) {text : List Char}
    (h : ∀ rest, text ≠ ',' :: rest) (rest : List Char) :
    protectCommas value ++ text ≠ ',' :: rest := by
  cases value with
  | nil => exact h rest
  | cons c value =>
    rw [protectCommas]
    split
    · simp
    · next hc => exact fun heq => hc (List.cons.inj heq).1

/-- A written value goes to the first piece as it is, unless a comma follows it at once. -/
theorem cutAtCommas_protectCommas (value : List Char) {text : List Char}
    (h : ∀ rest, text ≠ ',' :: rest) :
    cutAtCommas (protectCommas value ++ text) =
      (value ++ (cutAtCommas text).1, (cutAtCommas text).2) := by
  induction value with
  | nil => rfl
  | cons c value ih =>
    rw [protectCommas]
    split
    · next hc =>
      rw [List.cons_append, List.cons_append, cutAtCommas_escaped, ih, hc]
      rfl
    · next hc =>
      rw [List.cons_append,
        cutAtCommas_cons hc fun rest _ => protectCommas_append_ne value h rest, ih]
      rfl

/-- The pieces of a written list are its values, but for blanks around them. -/
theorem map_trim_cutAtCommas_joinValues {values : List (List Char)} (hne : values ≠ [])
    (h : ∀ value ∈ values, trim value = value) :
    ((cutAtCommas (joinValues values)).1 :: (cutAtCommas (joinValues values)).2).map trim =
      values := by
  have hspace : isBlankText [' '] = true := rfl
  fun_induction joinValues values with
  | case1 => contradiction
  | case2 value =>
    have hcut : cutAtCommas (protectCommas value ++ []) = (value ++ [], []) :=
      cutAtCommas_protectCommas value (by simp)
    rw [List.append_nil, List.append_nil] at hcut
    rw [hcut]
    simp [h value (by simp)]
  | case3 value values hvalues ih =>
    obtain ⟨hvalue, h⟩ := List.forall_mem_cons.1 h
    -- The first piece is the value and the blank behind it, the second starts with a blank.
    have hcut : cutAtCommas (protectCommas value ++ ' ' :: ',' :: ' ' :: joinValues values) =
        (value ++ [' '],
          (' ' :: (cutAtCommas (joinValues values)).1) :: (cutAtCommas (joinValues values)).2) := by
      rw [cutAtCommas_protectCommas value (by simp),
        cutAtCommas_cons (by decide) (fun _ h => absurd h (by decide)), cutAtCommas_comma,
        cutAtCommas_cons (by decide) (fun _ h => absurd h (by decide))]
    have hfirst : ∀ piece, trim (' ' :: piece) = trim piece := trim_append_left hspace
    rw [hcut, List.map_cons, List.map_cons, trim_append_right hspace, hvalue, hfirst,
      ← List.map_cons, ih hvalues h]

/-- A written list of values is blank only if the list is empty. -/
theorem isBlankText_joinValues {values : List (List Char)} (hne : values ≠ [])
    (hne' : values ≠ [[]]) (h : ∀ value ∈ values, trim value = value) :
    isBlankText (joinValues values) = false := by
  by_contra hblank
  rw [Bool.not_eq_false] at hblank
  fun_cases joinValues values with
  | case1 => contradiction
  | case2 value =>
    -- A value by itself is not empty, and its first character is not blank or is protected.
    have hvalue : value ≠ [] := fun hnil => hne' (by rw [hnil])
    obtain ⟨c, value, rfl⟩ := List.exists_cons_of_ne_nil hvalue
    have hc := isBlank_head (h (c :: value) (by simp))
    rw [joinValues, protectCommas] at hblank
    split at hblank
    · exact absurd (isBlankText_iff.1 hblank '\\' (by simp)) (by decide)
    · rw [isBlankText_iff.1 hblank c (by simp)] at hc
      contradiction
  | case3 value values hvalues =>
    rw [joinValues] at hblank
    · exact absurd (isBlankText_iff.1 hblank ',' (by simp)) (by decide)
    · exact hvalues

/-- A written list of trimmed values is split into these values, unless it is the list of one empty
value. -/
theorem splitValues_joinValues {values : List (List Char)} (hne : values ≠ [[]])
    (h : ∀ value ∈ values, trim value = value) : splitValues (joinValues values) = values := by
  by_cases hnil : values = []
  · rw [hnil]
    rfl
  · unfold splitValues
    rw [if_neg (by rw [isBlankText_joinValues hnil hne h]; simp)]
    exact map_trim_cutAtCommas_joinValues hnil h

end RequiredFields.Directive
