import RequiredFields.Directive
import RequiredFields.Proofs.Directive.Values

/-!
# Lists of values, cut first and unprotected afterwards

A list of values is read in one pass that looks one character ahead. The same values come from two
phases of which the first looks back: the text is cut at every comma that no backslash is right
before (`pieces`), and then in each piece `\,` becomes `,` (`unprotect`). The two agree
(`map_unprotect_pieces`) because a pair `\,` is never cut: the pass goes on behind the comma of such
a pair, where the phase that looks back has a comma behind it too, and behind any other backslash no
comma follows. What a run of backslashes in front of a comma becomes is then a matter of `unprotect`
alone, which takes the last of them (`unprotect_run`).
-/

namespace RequiredFields.Directive

open Text

/-! ## Cutting -/

/-- The characters of a text, each with the one before it, where `previous` is before the first. -/
def withPrevious (previous : Option Char) : List Char → List (Option Char × Char)
  | [] => []
  | c :: text => (previous, c) :: withPrevious (some c) text

/-- Whether a character with the one before it is a comma that no backslash is right before. -/
def isSeparator (o : Option Char × Char) : Bool :=
  o.2 == ',' && o.1 != some '\\'

/-- The texts between the separating commas of a text that has `previous` before it. -/
def piecesBehind (previous : Option Char) (text : List Char) : List (List Char) :=
  ((withPrevious previous text).splitOnP isSeparator).map (·.map Prod.snd)

/-- The texts between the separating commas of a text. -/
def pieces (text : List Char) : List (List Char) :=
  piecesBehind none text

variable {previous : Option Char} {c : Char} {text : List Char}

/-- There is a piece in any case. -/
theorem piecesBehind_ne_nil (previous : Option Char) (text : List Char) :
    piecesBehind previous text ≠ [] := by
  simp [piecesBehind, List.splitOnP_ne_nil]

/-- A separating comma ends a piece. -/
theorem piecesBehind_separator (h : previous ≠ some '\\') (text : List Char) :
    piecesBehind previous (',' :: text) = [] :: piecesBehind (some ',') text := by
  have hsep : isSeparator (previous, ',') = true := by simpa [isSeparator] using h
  rw [piecesBehind, withPrevious, List.splitOnP_cons_eq_if_modifyHead, if_pos hsep]
  rfl

/-- Any other character goes to the first piece. -/
theorem piecesBehind_cons (h : c = ',' → previous = some '\\') (text : List Char) :
    piecesBehind previous (c :: text) = (piecesBehind (some c) text).modifyHead (c :: ·) := by
  have hsep : ¬ isSeparator (previous, c) = true := by
    simp only [isSeparator, Bool.and_eq_true, beq_iff_eq, bne_iff_ne, not_and, not_not]
    exact h
  rw [piecesBehind, withPrevious, List.splitOnP_cons_eq_if_modifyHead, if_neg hsep, piecesBehind]
  cases (withPrevious (some c) text).splitOnP isSeparator <;> rfl

/-- The first piece starts as the text does. -/
theorem exists_of_piecesBehind {piece : List Char} {others : List (List Char)}
    (h : piecesBehind previous text = (c :: piece) :: others) : ∃ rest, text = c :: rest := by
  cases text with
  | nil => simp [piecesBehind, withPrevious] at h
  | cons d text =>
    by_cases hsep : d = ',' ∧ previous ≠ some '\\'
    · obtain ⟨rfl, hprevious⟩ := hsep
      -- A comma that separates leaves the first piece empty, which this one is not.
      rw [piecesBehind_separator hprevious] at h
      simp at h
    · rw [piecesBehind_cons (by simpa using hsep)] at h
      obtain ⟨first, rest, hpieces⟩ :=
        List.exists_cons_of_ne_nil (piecesBehind_ne_nil (some d) text)
      rw [hpieces, List.modifyHead_cons, List.cons.injEq, List.cons.injEq] at h
      exact ⟨text, by rw [h.1.1]⟩

/-- There is one piece more than there are separating commas. -/
theorem length_piecesBehind (previous : Option Char) (text : List Char) :
    (piecesBehind previous text).length = (withPrevious previous text).countP isSeparator + 1 := by
  induction text generalizing previous with
  | nil => rfl
  | cons c text ih =>
    rw [withPrevious, List.countP_cons, ← Nat.add_right_comm, ← ih (some c), piecesBehind,
      withPrevious, List.splitOnP_cons_eq_if_modifyHead, piecesBehind]
    split <;> simp

/-! ## Unprotecting -/

/-- A text with `,` for every `\,`. -/
def unprotect : List Char → List Char
  | [] => []
  | '\\' :: ',' :: text => ',' :: unprotect text
  | c :: text => c :: unprotect text

/-- The characters of a text, each with the one behind it. -/
def withNext : List Char → List (Char × Option Char)
  | [] => []
  | c :: text => (c, text.head?) :: withNext text

/-- Whether a character with the one behind it is a backslash right before a comma. -/
def isProtection (o : Char × Option Char) : Bool :=
  o.1 == '\\' && o.2 == some ','

/-- A character stays, a backslash only when no comma follows. -/
theorem unprotect_cons (h : ∀ rest, c = '\\' → text ≠ ',' :: rest) :
    unprotect (c :: text) = c :: unprotect text := by
  rw [unprotect]
  exact h

/-- The backslashes that are right before a comma are left out, and nothing else is. -/
theorem unprotect_eq_filter (text : List Char) :
    unprotect text = ((withNext text).filter fun o => !isProtection o).map Prod.fst := by
  fun_induction unprotect text with
  | case1 => rfl
  | case2 text ih =>
    rw [withNext, withNext, ih]
    rfl
  | case3 c text h ih =>
    -- The reader has ruled out a backslash in front of a comma before it keeps a character.
    have hkeep : isProtection (c, text.head?) = false := by
      rw [Bool.eq_false_iff]
      intro hprotection
      rw [isProtection, Bool.and_eq_true, beq_iff_eq, beq_iff_eq] at hprotection
      obtain ⟨hc, hcomma⟩ := hprotection
      obtain ⟨rest, hrest⟩ := List.head?_eq_some_iff.1 hcomma
      exact h rest hc hrest
    rw [withNext, List.filter_cons_of_pos (by rw [hkeep]; rfl), List.map_cons, ih]

/-- Of a run of backslashes right before a comma all but one are kept. -/
theorem unprotect_run (front : List Char) (n : Nat) (rest : List Char) :
    unprotect (front ++ (List.replicate (n + 1) '\\' ++ ',' :: rest)) =
      unprotect front ++ (List.replicate n '\\' ++ ',' :: unprotect rest) := by
  fun_induction unprotect front with
  | case1 =>
    -- The run itself: of each but the last backslash the next character is a backslash.
    induction n with
    | zero => rfl
    | succ n ih =>
      rw [List.nil_append, List.nil_append] at ih
      rw [List.nil_append, List.nil_append, List.replicate_succ, List.cons_append,
        unprotect_cons (by simp [List.replicate_succ]), ih, List.replicate_succ, List.cons_append]
  | case2 front ih =>
    rw [List.cons_append, List.cons_append, unprotect, ih, List.cons_append]
  | case3 c front h ih =>
    have hnext : ∀ rest', c = '\\' →
        front ++ (List.replicate (n + 1) '\\' ++ ',' :: rest) ≠ ',' :: rest' := by
      intro rest' hc hcomma
      cases front with
      | nil => simp [List.replicate_succ] at hcomma
      | cons d front => exact h front hc (by rw [(List.cons.inj hcomma).1])
    rw [List.cons_append, unprotect_cons hnext, ih, List.cons_append]

/-! ## Both -/

/-- The pass cuts at the separating commas and unprotects the pieces, if it does not start at a
comma behind a backslash. -/
theorem map_unprotect_piecesBehind (h : previous = some '\\' → ∀ rest, text ≠ ',' :: rest) :
    (piecesBehind previous text).map unprotect = (cutAtCommas text).1 :: (cutAtCommas text).2 := by
  induction text using cutAtCommas.induct generalizing previous with
  | case1 => rfl
  | case2 text _ _ _ ih =>
    obtain ⟨piece, others, hpieces⟩ :=
      List.exists_cons_of_ne_nil (piecesBehind_ne_nil (some ',') text)
    have hread := @ih (some ',') (by simp)
    rw [hpieces, List.map_cons, List.cons.injEq] at hread
    rw [piecesBehind_cons (by simp), piecesBehind_cons (by simp), hpieces, cutAtCommas_escaped,
      ← hread.1, ← hread.2]
    rfl
  | case3 text _ _ _ ih =>
    have hprevious : previous ≠ some '\\' := fun hesc => h hesc text rfl
    rw [piecesBehind_separator hprevious, List.map_cons, ih (by simp), cutAtCommas_comma]
    rfl
  | case4 c text hesc hcomma _ _ _ ih =>
    obtain ⟨piece, others, hpieces⟩ :=
      List.exists_cons_of_ne_nil (piecesBehind_ne_nil (some c) text)
    have hread := @ih (some c) fun hc rest => hesc rest (Option.some.inj hc)
    rw [hpieces, List.map_cons, List.cons.injEq] at hread
    -- The first piece starts with a comma only if the text does.
    have hpiece : ∀ rest, c = '\\' → piece ≠ ',' :: rest := by
      rintro rest hc rfl
      obtain ⟨rest, htext⟩ := exists_of_piecesBehind hpieces
      exact hesc rest hc htext
    rw [piecesBehind_cons fun hc => absurd hc hcomma, hpieces, cutAtCommas_cons hcomma hesc,
      List.modifyHead_cons, List.map_cons, unprotect_cons hpiece, ← hread.1, ← hread.2]

/-- A text that is not blank has the unprotected and trimmed pieces as its values. -/
theorem splitValues_eq_pieces (h : isBlankText text = false) :
    splitValues text = (pieces text).map fun piece => trim (unprotect piece) := by
  have hcut : (pieces text).map unprotect = (cutAtCommas text).1 :: (cutAtCommas text).2 :=
    map_unprotect_piecesBehind (by simp)
  unfold splitValues
  rw [if_neg (by simp [h])]
  change List.map trim ((cutAtCommas text).1 :: (cutAtCommas text).2) = _
  rw [← hcut, List.map_map]
  rfl

/-- The values of a text in two phases. A blank text has none. Any other text is cut at every comma
that is the first character or has no backslash right before it, then `\,` becomes `,` in each
piece, and then each piece is trimmed; the values are in the order of the pieces, and there is one
more of them than there are such commas. Of a piece nothing is left out but the backslashes that are
right before a comma, and so of a run of backslashes in front of a comma just one. -/
theorem valuesOf_eq_pieces (text : String) :
    (isBlankText text.toList = true → valuesOf text = []) ∧
    (isBlankText text.toList = false →
      valuesOf text =
        (pieces text.toList).map (fun piece => String.ofList (trim (unprotect piece))) ∧
      (valuesOf text).length = (withPrevious none text.toList).countP isSeparator + 1) ∧
    (∀ piece, unprotect piece =
      ((withNext piece).filter fun o => !isProtection o).map Prod.fst) ∧
    (∀ front n rest, unprotect (front ++ (List.replicate (n + 1) '\\' ++ ',' :: rest)) =
      unprotect front ++ (List.replicate n '\\' ++ ',' :: unprotect rest)) := by
  refine ⟨?_, ?_, unprotect_eq_filter, unprotect_run⟩
  · intro hblank
    rw [valuesOf, splitValues, if_pos hblank, List.map_nil]
  · intro hblank
    have hvalues : valuesOf text =
        (pieces text.toList).map (fun piece => String.ofList (trim (unprotect piece))) := by
      rw [valuesOf, splitValues_eq_pieces hblank, List.map_map]
      rfl
    refine ⟨hvalues, ?_⟩
    rw [hvalues, List.length_map]
    exact length_piecesBehind none text.toList

/-- Two backslashes before a comma and one, a comma between blanks, two commas in a row, and a
backslash at the end; and a text of blanks. -/
theorem valuesOf_eq_pieces_runs :
    let text := "a\\\\,b , \\,c\\ ,,d\\"
    isBlankText text.toList = false ∧ valuesOf text = ["a\\,b", ",c\\", "", "d\\"] ∧
      (withPrevious none text.toList).countP isSeparator = 3 ∧
      isBlankText " \t".toList = true ∧ valuesOf " \t" = [] := by
  intro text
  have hfilled : isBlankText text.toList = false := by decide
  have hblank : isBlankText " \t".toList = true := by decide
  obtain ⟨hvalues, hlength⟩ := (valuesOf_eq_pieces text).2.1 hfilled
  have hpieces : valuesOf text = ["a\\,b", ",c\\", "", "d\\"] := by
    rw [hvalues]
    decide
  rw [hpieces] at hlength
  exact ⟨hfilled, hpieces, (Nat.succ.inj hlength).symm, hblank, (valuesOf_eq_pieces _).1 hblank⟩

end RequiredFields.Directive
