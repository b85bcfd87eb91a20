import RequiredFields.Proofs.Directive.RoundTrip

/-!
# Directives that are not understood

A directive that is not understood asks for its field always. `Vague` lists the texts behind a
marker for which this happens, by their form alone, each with its warning: no group, a group that is
never closed, and a group whose expression is blank, has no operator, or starts with its operator.
There are no others (`readGroup_eq_always_iff`): a group that is closed has a balanced body
(`closeGroup?_eq_some`), and an expression with an operator behind a target is a comparison. There
is a warning about the groups that `IsAnnounced` tells (`exists_vague_iff`), which are all vague
ones with something in them.
-/

namespace RequiredFields.Directive

open Text

/-- The characters that alone are an operator are no blanks. -/
theorem isPlain_of_isBlankText {text : List Char} (h : isBlankText text = true) :
    IsPlain text := by
  intro c hc
  have hblank := isBlankText_iff.1 h c hc
  refine ⟨?_, ?_, ?_⟩ <;> (rintro rfl; contradiction)

/-- Trimming leaves all characters that alone are an operator. -/
theorem isPlain_trim {text : List Char} : IsPlain (trim text) ↔ IsPlain text := by
  constructor
  · intro h c hc
    obtain ⟨l, r, hl, hr, htext⟩ := exists_eq_append_trim text
    rw [htext, List.append_assoc, List.mem_append, List.mem_append] at hc
    rcases hc with hc | hc | hc
    · exact isPlain_of_isBlankText hl c hc
    · exact h c hc
    · exact isPlain_of_isBlankText hr c hc
  · exact fun h c hc => h c (mem_of_mem_trim hc)

/-- A trimmed text that starts with blanks in front of something else has no blanks there. -/
theorem eq_nil_of_trim_append {left right : List Char}
    (h : trim (left ++ right) = left ++ right) (hleft : trim left = []) : left = [] := by
  cases left with
  | nil => rfl
  | cons c left =>
    have hblank : isBlank c = true := isBlankText_iff.1 (trim_eq_nil_iff.1 hleft) c (by simp)
    have hhead : isBlank c = false := isBlank_head h
    rw [hblank] at hhead
    contradiction

/-- The expressions that make no comparison, and the warnings about them. -/
inductive VagueExpression (text : List Char) : Option Warning → Prop where
  /-- The expression is blank. -/
  | blank (h : isBlankText text = true) : VagueExpression text none
  /-- The expression has no operator. -/
  | noOperator (h : isBlankText text = false) (hplain : IsPlain text) :
    VagueExpression text (some (.noOperator (.ofList (trim text))))
  /-- The expression starts with an operator. -/
  | noTarget (op : Operator) (right : List Char) (h : trim text = op.symbol.toList ++ right) :
    VagueExpression text (some (.noTarget (.ofList (trim text))))

/-- An expression without an operator asks for the field always, with a warning unless it is
blank. -/
theorem readExpression_of_isPlain {text : List Char} (h : IsPlain text) :
    readExpression text =
      ⟨.always, if isBlankText text then none else some (.noOperator (.ofList (trim text)))⟩ := by
  have hsplit := splitAtOperator?_eq_none.2 (isPlain_trim.2 h)
  have hempty : (trim text).isEmpty = isBlankText text := by
    rw [Bool.eq_iff_iff, List.isEmpty_iff, trim_eq_nil_iff]
  simp only [readExpression, hsplit, hempty]
  split <;> rfl

/-- An expression that starts with an operator asks for the field always, with a warning. -/
theorem readExpression_of_symbol {text right : List Char} {op : Operator}
    (h : trim text = op.symbol.toList ++ right) :
    readExpression text = ⟨.always, some (.noTarget (.ofList (trim text)))⟩ := by
  obtain ⟨op', right', hsplit⟩ := exists_splitAtOperator?_symbol op right
  rw [← h] at hsplit
  have hnil : trim [] = [] := rfl
  simp only [readExpression, hsplit, hnil, List.isEmpty_nil, if_true]

/-- An expression asks for the field always exactly if it is vague. -/
theorem readExpression_eq_always_iff {text : List Char} {warning : Option Warning} :
    readExpression text = ⟨.always, warning⟩ ↔ VagueExpression text warning := by
  constructor
  · intro h
    cases hsplit : splitAtOperator? (trim text) with
    | none =>
      have hplain := isPlain_trim.1 (splitAtOperator?_eq_none.1 hsplit)
      rw [readExpression_of_isPlain hplain, Finding.mk.injEq] at h
      obtain ⟨-, rfl⟩ := h
      cases hblank : isBlankText text with
      | true => exact .blank hblank
      | false => exact .noOperator hblank hplain
    | some split =>
      obtain ⟨left, op, right⟩ := split
      have htext := (isSplit_of_splitAtOperator? hsplit).text_eq
      by_cases hleft : trim left = []
      · -- The text is trimmed, so a blank target is an empty one and the operator comes first.
        have htrim := trim_trim text
        rw [htext] at htrim
        rw [eq_nil_of_trim_append htrim hleft, List.nil_append] at htext
        rw [readExpression_of_symbol htext, Finding.mk.injEq] at h
        obtain ⟨-, rfl⟩ := h
        exact .noTarget op right htext
      · simp [readExpression, hsplit, hleft, Condition.always, Condition.comparing] at h
  · rintro (hblank | ⟨hblank, hplain⟩ | ⟨op, right, h⟩)
    · rw [readExpression_of_isPlain (isPlain_of_isBlankText hblank), if_pos hblank]
    · rw [readExpression_of_isPlain hplain, hblank]
      rfl
    · exact readExpression_of_symbol h

/-- The texts behind a marker that make no comparison, and the warnings about them. -/
inductive Vague (description : String) (rest : List Char) : Option Warning → Prop where
  /-- Behind blanks there is no group. -/
  | noGroup (h : ∀ text, trimStart rest ≠ '(' :: text) : Vague description rest none
  /-- The group is never closed. -/
  | unclosed {text : List Char} (hgroup : trimStart rest = '(' :: text)
    (h : ∀ body after, text = body ++ ')' :: after → ¬ Balanced body) :
    Vague description rest (some (.unbalanced description))
  /-- The expression in the group is vague. -/
  | expression {body after : List Char} {warning : Option Warning}
    (hgroup : trimStart rest = '(' :: (body ++ ')' :: after)) (hbody : Balanced body)
    (h : VagueExpression (unescape body) warning) : Vague description rest warning

/-- A directive asks for its field always exactly if what follows its marker is vague. -/
theorem readGroup_eq_always_iff {description : String} {rest : List Char}
    {warning : Option Warning} :
    readGroup description rest = ⟨.always, warning⟩ ↔ Vague description rest warning := by
  constructor
  · intro h
    unfold readGroup at h
    split at h
    · next text hgroup =>
      split at h
      · next body after hclose =>
        obtain ⟨rfl, hbody⟩ := closeGroup?_eq_some.1 hclose
        exact .expression hgroup hbody (readExpression_eq_always_iff.1 h)
      · next hclose =>
        obtain ⟨-, rfl⟩ := Finding.mk.inj h
        exact .unclosed hgroup (closeGroup?_eq_none.1 hclose)
    · next hgroup =>
      obtain ⟨-, rfl⟩ := Finding.mk.inj h
      exact .noGroup hgroup
  · rintro (h | ⟨hgroup, h⟩ | ⟨hgroup, hbody, h⟩)
    · unfold readGroup
      split
      · next text hgroup => exact absurd hgroup (h text)
      · rfl
    · simp only [readGroup, hgroup, closeGroup?_eq_none.2 h]
    · simp only [readGroup, hgroup, closeGroup?_balanced hbody]
      exact readExpression_eq_always_iff.2 h

/-! ## Warnings -/

/-- Unescaping makes no text blank, since no character that a backslash is taken away from is a
blank. -/
theorem isBlankText_unescape (body : List Char) :
    isBlankText (unescape body) = isBlankText body := by
  have hesc : isBlank '\\' = false := rfl
  fun_induction unescape body with
  | case1 | case2 => rfl
  | case3 c body hc ih =>
    have hblank : isBlank c = false := by
      simp only [isEscapable, Bool.or_eq_true, beq_iff_eq] at hc
      obtain ((rfl | rfl) | rfl) | rfl := hc <;> rfl
    simp only [isBlankText, List.all_cons, hesc, hblank, Bool.false_and]
  | case4 c body hc ih => simp only [isBlankText, List.all_cons, hesc, Bool.false_and]
  | case5 c body _ _ ih =>
    unfold isBlankText at ih ⊢
    rw [List.all_cons, List.all_cons, ih]

/-- The texts behind a marker that there is a warning about. -/
inductive IsAnnounced (rest : List Char) : Prop where
  /-- The group is never closed. -/
  | unclosed {text : List Char} (hgroup : trimStart rest = '(' :: text)
    (h : ∀ body after, text = body ++ ')' :: after → ¬ Balanced body)
  /-- The body of the group is not blank, and it has no operator or starts with one. -/
  | incomplete {body after : List Char} (hgroup : trimStart rest = '(' :: (body ++ ')' :: after))
    (hbody : Balanced body) (hblank : isBlankText body = false)
    (h : IsPlain (unescape body) ∨
      ∃ op : Operator, ∃ right, trim (unescape body) = op.symbol.toList ++ right)

/-- There is a warning about the announced texts and about no others. -/
theorem exists_vague_iff (description : String) {rest : List Char} :
    (∃ warning, Vague description rest (some warning)) ↔ IsAnnounced rest := by
  constructor
  · rintro ⟨warning, h⟩
    cases h with
    | unclosed hgroup h => exact .unclosed hgroup h
    | expression hgroup hbody h =>
      cases h with
      | noOperator hblank hplain =>
        rw [isBlankText_unescape] at hblank
        exact .incomplete hgroup hbody hblank (.inl hplain)
      | noTarget op right h =>
        -- The operator is a character of the body that is not blank.
        refine .incomplete hgroup hbody ?_ (.inr ⟨op, right, h⟩)
        rw [← isBlankText_unescape, Bool.eq_false_iff, ne_eq, ← trim_eq_nil_iff, h]
        simp [(trim_symbol op).2]
  · rintro (⟨hgroup, h⟩ | ⟨hgroup, hbody, hblank, hplain | ⟨op, right, h⟩⟩)
    · exact ⟨_, .unclosed hgroup h⟩
    · rw [← isBlankText_unescape] at hblank
      exact ⟨_, .expression hgroup hbody (.noOperator hblank hplain)⟩
    · exact ⟨_, .expression hgroup hbody (.noTarget op right h)⟩

/-- There is no warning about a comparison. -/
theorem readGroup_cases (description : String) (rest : List Char) :
    (readGroup description rest).condition = .always ∨
      ∃ target op values, readGroup description rest = ⟨.comparing target op values, none⟩ := by
  unfold readGroup
  split
  · split
    · next body _ _ =>
      refine (readExpression_cases (unescape body)).imp_right ?_
      rintro ⟨left, op, right, -, -, h⟩
      exact ⟨_, op, _, h⟩
    · exact .inl rfl
  · exact .inl rfl

end RequiredFields.Directive
