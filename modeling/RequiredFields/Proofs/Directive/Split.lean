import RequiredFields.Proofs.Directive.Vague

/-!
# The operator of an expression

What makes an operator the leftmost and longest one of a text, `IsSplit` says without a word on how
it is looked for: nothing before it is an operator, and no character at either side makes its symbol
longer. A text that is not plain has one such operator (`existsUnique_isSplit`), and it stays where
it is when the text behind it changes or more exclamation marks come before it
(`IsSplit.replace_right`, `IsSplit.insert_mark`). So an expression is read in one way
(`readExpression_unambiguous`): it asks for its field always if it has no operator or only blanks
before it, and otherwise compares what stands before the operator with what stands behind.
-/

namespace RequiredFields.Directive

open Text

namespace IsSplit

variable {text left right : List Char} {op : Operator}

/-- Other text behind the operator leaves it where it is. -/
theorem replace_right (h : IsSplit text left op right) {right' : List Char}
    (hright : op = .lt ∨ op = .gt → ∀ rest, right' ≠ '=' :: rest) :
    IsSplit (left ++ (op.symbol.toList ++ right')) left op right' :=
  ⟨rfl, h.left_plain, h.left_mark, hright⟩

/-- An exclamation mark more before the operator, not right before an equals sign, leaves it where
it is. -/
theorem insert_mark {before after : List Char} (h : IsSplit text (before ++ after) op right)
    (hafter : op = .eq → after ≠ []) :
    IsSplit (before ++ '!' :: after ++ (op.symbol.toList ++ right)) (before ++ '!' :: after) op
      right where
  text_eq := rfl
  left_plain := by
    intro c hc
    rcases List.mem_append.1 hc with hc | hc
    · exact h.left_plain c (List.mem_append_left _ hc)
    · rcases List.mem_cons.1 hc with rfl | hc
      · decide
      · exact h.left_plain c (List.mem_append_right _ hc)
  left_mark := by
    intro hop rest hrest
    obtain ⟨after, d, rfl⟩ := (List.eq_nil_or_concat' after).resolve_left (hafter hop)
    -- The last character before the equals sign is the same as without the mark.
    have hlast : before ++ '!' :: after ++ [d] = rest ++ ['!'] := by
      rw [← hrest, List.append_assoc, List.cons_append]
    refine h.left_mark hop (before ++ after) ?_
    rw [List.append_inj_right' hlast rfl, List.append_assoc]
  right_equals := h.right_equals

end IsSplit

/-- A text that is not plain has one leftmost and longest operator. -/
theorem existsUnique_isSplit {text : List Char} (h : ¬ IsPlain text) :
    ∃! split : List Char × Operator × List Char, IsSplit text split.1 split.2.1 split.2.2 := by
  obtain ⟨split, hsplit⟩ :=
    Option.ne_none_iff_exists'.1 fun hnone => h (splitAtOperator?_eq_none.1 hnone)
  refine ⟨split, splitAtOperator?_eq_some_iff.1 hsplit, fun other hother => ?_⟩
  have hread := splitAtOperator?_eq_some_iff.2 hother
  exact Option.some.inj (hread.symm.trans hsplit)

/-- Trimming a text that starts with an operator leaves the operator. -/
theorem exists_trim_symbol_append (op : Operator) (right : List Char) :
    ∃ right', trim (op.symbol.toList ++ right) = op.symbol.toList ++ right' := by
  obtain ⟨hsymbol, hne⟩ := trim_symbol op
  obtain ⟨l, r, -, hr, hright⟩ := exists_eq_append_trim right
  by_cases hnil : trim right = []
  · refine ⟨[], ?_⟩
    rw [trim_append_right (trim_eq_nil_iff.1 hnil), hsymbol, List.append_nil]
  · refine ⟨l ++ trim right, ?_⟩
    conv_lhs => rw [hright]
    rw [← List.append_assoc, trim_append_right hr, ← List.append_assoc,
      trim_append_append hsymbol (trim_trim right) hne hnil, List.append_assoc]

/-- Behind blanks, an operator that starts the text is the operator of the text. -/
theorem exists_isSplit_of_blanks {blanks : List Char} (hblanks : isBlankText blanks = true)
    (op : Operator) (right : List Char) :
    ∃ op' right', IsSplit (blanks ++ (op.symbol.toList ++ right)) blanks op' right' := by
  obtain ⟨op', right', hsplit⟩ := exists_splitAtOperator?_symbol op right
  have hstart := isSplit_of_splitAtOperator? hsplit
  refine ⟨op', right', ⟨?_, isPlain_of_isBlankText hblanks, ?_, hstart.right_equals⟩⟩
  · rw [hstart.text_eq, List.nil_append]
  · rintro - rest rfl
    exact absurd (isBlankText_iff.1 hblanks '!' (by simp)) (by decide)

/-- An expression asks for its field always exactly if it has no operator, or only blanks before
it. -/
theorem condition_eq_always_iff {text : List Char} :
    (readExpression text).condition = .always ↔
      IsPlain text ∨
        ∃ blanks op right, isBlankText blanks = true ∧ IsSplit text blanks op right := by
  constructor
  · intro h
    have hvague : ∃ warning, VagueExpression text warning :=
      ⟨_, readExpression_eq_always_iff.1 (by rw [← h])⟩
    obtain ⟨warning, hblank | ⟨-, hplain⟩ | ⟨op, right, htrim⟩⟩ := hvague
    · exact .inl (isPlain_of_isBlankText hblank)
    · exact .inl hplain
    · obtain ⟨l, r, hl, -, htext⟩ := exists_eq_append_trim text
      rw [htrim, List.append_assoc, List.append_assoc] at htext
      obtain ⟨op', right', hsplit⟩ := exists_isSplit_of_blanks hl op (right ++ r)
      rw [← htext] at hsplit
      exact .inr ⟨l, op', right', hl, hsplit⟩
  · rintro (hplain | ⟨blanks, op, right, hblanks, hsplit⟩)
    · rw [readExpression_of_isPlain hplain]
    · obtain ⟨right', htrim⟩ := exists_trim_symbol_append op right
      have hstart : trim text = op.symbol.toList ++ right' := by
        rw [hsplit.text_eq, trim_append_left hblanks, htrim]
      rw [readExpression_of_symbol hstart]

/-- An expression with an operator behind a target compares the target with the values behind the
operator. -/
theorem readExpression_of_isSplit {text left right : List Char} {op : Operator}
    (h : IsSplit (trim text) left op right) (hleft : isBlankText left = false) :
    readExpression text = ⟨.comparing (.ofList (trim left)) op
      ((splitValues (trim right)).map String.ofList), none⟩ := by
  have hne : trim left ≠ [] := fun hnil => by simp [trim_eq_nil_iff.1 hnil] at hleft
  simp [readExpression, splitAtOperator?_eq_some_iff.2 h, hne]

/-- An expression is read in one way. It asks for its field always exactly if it has no operator or
only blanks before it. Otherwise its trimmed text has one leftmost and longest operator, and the
expression compares the trimmed target before that operator with the values behind it. Whatever
stands behind an operator, and whatever exclamation marks stand before it, other than right before
an equals sign, the text is split at this operator. -/
theorem readExpression_unambiguous (text : List Char) :
    ((readExpression text).condition = .always ↔
      IsPlain text ∨
        ∃ blanks op right, isBlankText blanks = true ∧ IsSplit text blanks op right) ∧
    ((readExpression text).condition ≠ .always →
      (∃! split : List Char × Operator × List Char,
        IsSplit (trim text) split.1 split.2.1 split.2.2) ∧
      ∀ left op right, IsSplit (trim text) left op right →
        readExpression text = ⟨.comparing (.ofList (trim left)) op
          ((splitValues (trim right)).map String.ofList), none⟩) ∧
    (∀ left op right right', IsSplit text left op right →
      (op = .lt ∨ op = .gt → ∀ rest, right' ≠ '=' :: rest) →
      splitAtOperator? (left ++ (op.symbol.toList ++ right')) = some (left, op, right')) ∧
    (∀ before after op right, IsSplit text (before ++ after) op right →
      (op = .eq → after ≠ []) →
      splitAtOperator? (before ++ '!' :: after ++ (op.symbol.toList ++ right)) =
        some (before ++ '!' :: after, op, right)) := by
  refine ⟨condition_eq_always_iff, fun h => ⟨?_, ?_⟩, ?_, ?_⟩
  · refine existsUnique_isSplit fun hplain => h (condition_eq_always_iff.2 (.inl ?_))
    exact isPlain_trim.1 hplain
  · intro left op right hsplit
    refine readExpression_of_isSplit hsplit (Bool.eq_false_iff.2 fun hblank => h ?_)
    -- With blanks alone before it, the operator starts the trimmed text.
    have htrim := trim_trim text
    rw [hsplit.text_eq] at htrim
    have hnil := eq_nil_of_trim_append htrim (trim_eq_nil_iff.2 hblank)
    have hstart := hsplit.text_eq
    rw [hnil, List.nil_append] at hstart
    rw [readExpression_of_symbol hstart]
  · exact fun left op right right' h hright =>
      splitAtOperator?_eq_some_iff.2 (h.replace_right hright)
  · exact fun before after op right h hafter =>
      splitAtOperator?_eq_some_iff.2 (h.insert_mark hafter)

/-- A mark that belongs to the target, one that belongs to the operator, and an operator among the
values. -/
theorem readExpression_unambiguous_marks :
    (readExpression " a!!=b<=c ".toList).condition ≠ .always ∧
    IsSplit (trim " a!!=b<=c ".toList) "a!".toList .ne "b<=c".toList ∧
    readExpression " a!!=b<=c ".toList = ⟨.comparing "a!" .ne ["b<=c"], none⟩ := by
  have hne : (readExpression " a!!=b<=c ".toList).condition ≠ .always := by decide
  have hsplit : IsSplit (trim " a!!=b<=c ".toList) "a!".toList .ne "b<=c".toList :=
    ⟨by decide, by decide, by simp, by simp⟩
  exact ⟨hne, hsplit, ((readExpression_unambiguous _).2.1 hne).2 _ _ _ hsplit⟩

end RequiredFields.Directive
