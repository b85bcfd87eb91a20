import RequiredFields.Proofs.Directive.Values

/-!
# Expressions, read and written

`Writable` says of a target and a list of values what the reader of expressions grants: a target
that is trimmed, not empty and free of the characters that start an operator, and trimmed values.
Every expression that is understood yields such a pair (`readExpression_cases`), and every such pair
is read back from its written expression (`readExpression_writeExpression`). The operator of a text
is its leftmost and longest one (`IsSplit`), and this is what is found
(`splitAtOperator?_eq_some_iff`); in a written expression a blank keeps an exclamation mark at the
end of the target from joining the operator.
-/

namespace RequiredFields.Directive

open Text

/-- A text without the characters that alone are an operator. -/
def IsPlain (text : List Char) : Prop :=
  ∀ c ∈ text, c ≠ '=' ∧ c ≠ '<' ∧ c ≠ '>'

instance : DecidablePred IsPlain := fun text => List.decidableBAll _ text

/-- A character that starts no operator goes to the text before the operator. -/
theorem splitAtOperator?_cons {c : Char} {text : List Char} (hc : c ≠ '=' ∧ c ≠ '<' ∧ c ≠ '>')
    (h : ∀ rest, c = '!' → text ≠ '=' :: rest) :
    splitAtOperator? (c :: text) =
      (splitAtOperator? text).map fun (left, op, right) => (c :: left, op, right) := by
  obtain ⟨heq, hlt, hgt⟩ := hc
  rw [splitAtOperator?]
  · exact h
  · exact fun _ hc => absurd hc hlt
  · exact fun _ hc => absurd hc hgt
  · exact heq
  · exact hlt
  · exact hgt

/-- A text that starts with the symbol of an operator is split there, if that symbol is not the
start of a longer one. -/
theorem splitAtOperator?_symbol (op : Operator) {right : List Char}
    (h : op = .lt ∨ op = .gt → ∀ rest, right ≠ '=' :: rest) :
    splitAtOperator? (op.symbol.toList ++ right) = some ([], op, right) := by
  cases op with
  | eq | ne | ge | le => rfl
  | lt =>
    show splitAtOperator? ('<' :: right) = some ([], .lt, right)
    rw [splitAtOperator?]
    exact h (.inl rfl)
  | gt =>
    show splitAtOperator? ('>' :: right) = some ([], .gt, right)
    rw [splitAtOperator?]
    exact h (.inr rfl)

/-- A text that starts with the symbol of an operator is split at its start, by that operator or a
longer one. -/
theorem exists_splitAtOperator?_symbol (op : Operator) (right : List Char) :
    ∃ op' right', splitAtOperator? (op.symbol.toList ++ right) = some ([], op', right') := by
  by_cases h : op = .lt ∨ op = .gt → ∀ rest, right ≠ '=' :: rest
  · exact ⟨op, right, splitAtOperator?_symbol op h⟩
  · -- An equals sign makes the symbol longer.
    push Not at h
    obtain ⟨rfl | rfl, rest, rfl⟩ := h
    · exact ⟨.le, rest, rfl⟩
    · exact ⟨.ge, rest, rfl⟩

/-- The first operator stands behind a plain text, where neither an exclamation mark before it nor
an equals sign behind it makes its symbol longer. -/
theorem splitAtOperator?_append {left right : List Char} {op : Operator} (hleft : IsPlain left)
    (heq : op = .eq → ∀ rest, left ≠ rest ++ ['!'])
    (hright : op = .lt ∨ op = .gt → ∀ rest, right ≠ '=' :: rest) :
    splitAtOperator? (left ++ (op.symbol.toList ++ right)) = some (left, op, right) := by
  induction left with
  | nil => exact splitAtOperator?_symbol op hright
  | cons c left ih =>
    obtain ⟨hc, hleft⟩ := List.forall_mem_cons.1 hleft
    have hmark : ∀ rest, c = '!' → left ++ (op.symbol.toList ++ right) ≠ '=' :: rest := by
      rintro rest rfl h
      cases left with
      | nil =>
        -- Only `=` itself starts with an equals sign.
        cases op <;> simp_all [Operator.symbol]
      | cons d left =>
        rw [List.cons_append] at h
        exact (hleft d (by simp)).1 (List.cons.inj h).1
    rw [List.cons_append, splitAtOperator?_cons hc hmark,
      ih hleft fun hop rest h => heq hop (c :: rest) (by rw [h, List.cons_append])]
    rfl

/-- A text consists of a part without operators, an operator, and the rest. -/
structure IsSplit (text left : List Char) (op : Operator) (right : List Char) : Prop where
  /-- The two parts and the symbol between them make the text. -/
  text_eq : text = left ++ (op.symbol.toList ++ right)
  /-- No operator stands before this one. -/
  left_plain : IsPlain left
  /-- An equals sign is not the second half of `!=`. -/
  left_mark : op = .eq → ∀ rest, left ≠ rest ++ ['!']
  /-- An angle is not the first half of `<=` or `>=`. -/
  right_equals : op = .lt ∨ op = .gt → ∀ rest, right ≠ '=' :: rest

namespace IsSplit

variable {text left right : List Char} {op : Operator}

/-- An operator starts the text. -/
theorem symbol (op : Operator) (h : op = .lt ∨ op = .gt → ∀ rest, right ≠ '=' :: rest) :
    IsSplit (op.symbol.toList ++ right) [] op right where
  text_eq := rfl
  left_plain := fun _ hc => absurd hc List.not_mem_nil
  left_mark := fun _ rest hrest => by simp at hrest
  right_equals := h

/-- One more character stands before the operator, and does not become a part of it. -/
theorem cons {c : Char} (h : IsSplit text left op right) (hc : c ≠ '=' ∧ c ≠ '<' ∧ c ≠ '>')
    (hmark : ∀ rest, c = '!' → text ≠ '=' :: rest) : IsSplit (c :: text) (c :: left) op right where
  text_eq := by rw [h.text_eq, List.cons_append]
  left_plain := List.forall_mem_cons.2 ⟨hc, h.left_plain⟩
  left_mark := by
    rintro rfl (_ | ⟨d, rest⟩) hrest
    · -- The mark would stand right before the equals sign.
      obtain ⟨rfl, rfl⟩ := List.cons.inj hrest
      exact hmark right rfl h.text_eq
    · exact h.left_mark rfl rest (List.cons.inj hrest).2
  right_equals := h.right_equals

end IsSplit

/-- The operator that is found is the leftmost and longest one. -/
theorem isSplit_of_splitAtOperator? {text left right : List Char} {op : Operator}
    (h : splitAtOperator? text = some (left, op, right)) : IsSplit text left op right := by
  -- The cases are those of the reader: a `<` or `>` without `=`, another character, an operator.
  fun_induction splitAtOperator? text generalizing left with
  | case1 => contradiction
  | case6 text hle =>
    obtain ⟨rfl, hrest⟩ := Prod.mk.inj (Option.some.inj h)
    obtain ⟨rfl, rfl⟩ := Prod.mk.inj hrest
    exact .symbol .lt fun _ => hle
  | case7 text hge =>
    obtain ⟨rfl, hrest⟩ := Prod.mk.inj (Option.some.inj h)
    obtain ⟨rfl, rfl⟩ := Prod.mk.inj hrest
    exact .symbol .gt fun _ => hge
  | case8 c text hne hle hge heq hlt hgt ih =>
    obtain ⟨⟨left', op', right'⟩, h', hcons⟩ := Option.map_eq_some_iff.1 h
    obtain ⟨rfl, hrest⟩ := Prod.mk.inj hcons
    obtain ⟨rfl, rfl⟩ := Prod.mk.inj hrest
    exact (ih h').cons ⟨heq, hlt, hgt⟩ hne
  | _ =>
    obtain ⟨rfl, hrest⟩ := Prod.mk.inj (Option.some.inj h)
    obtain ⟨rfl, rfl⟩ := Prod.mk.inj hrest
    exact ⟨rfl, fun _ hc => absurd hc List.not_mem_nil, by simp, by simp⟩

/-- The operator that is found is the leftmost and longest one, and it is always found. -/
theorem splitAtOperator?_eq_some_iff {text left right : List Char} {op : Operator} :
    splitAtOperator? text = some (left, op, right) ↔ IsSplit text left op right := by
  refine ⟨isSplit_of_splitAtOperator?, fun h => ?_⟩
  rw [h.text_eq]
  exact splitAtOperator?_append h.left_plain h.left_mark h.right_equals

/-- A text has no operator exactly if it is plain. -/
theorem splitAtOperator?_eq_none {text : List Char} :
    splitAtOperator? text = none ↔ IsPlain text := by
  constructor
  · intro h
    fun_induction splitAtOperator? text with
    | case1 => exact fun c hc => absurd hc (by simp)
    | case8 c text hne hle hge heq hlt hgt ih =>
      exact List.forall_mem_cons.2 ⟨⟨heq, hlt, hgt⟩, ih (Option.map_eq_none_iff.1 h)⟩
    | _ => contradiction
  · intro h
    induction text with
    | nil => rfl
    | cons c text ih =>
      obtain ⟨hc, htext⟩ := List.forall_mem_cons.1 h
      -- The exclamation mark of `!=` may be plain, but the equals sign behind it is not.
      have hmark : ∀ rest, c = '!' → text ≠ '=' :: rest := by
        rintro rest - rfl
        exact (htext '=' (by simp)).1 rfl
      rw [splitAtOperator?_cons hc hmark, ih htext, Option.map_none]

/-- A target and values that an expression can write. -/
structure Writable (target : String) (values : List String) : Prop where
  /-- The target is not empty. -/
  target_ne : target ≠ ""
  /-- No blank starts or ends the target. -/
  target_trim : trim target.toList = target.toList
  /-- The target has no character that alone is an operator. -/
  target_plain : IsPlain target.toList
  /-- No blank starts or ends a value. -/
  values_trim : ∀ value ∈ values, trim value.toList = value.toList
  /-- One empty value is not written. -/
  values_ne : values ≠ [""]

instance (target : String) (values : List String) : Decidable (Writable target values) :=
  decidable_of_iff
    (target ≠ "" ∧ trim target.toList = target.toList ∧ IsPlain target.toList ∧
      (∀ value ∈ values, trim value.toList = value.toList) ∧ values ≠ [""])
    ⟨fun ⟨hne, htrim, hplain, hvalues, hvalues'⟩ => ⟨hne, htrim, hplain, hvalues, hvalues'⟩,
      fun ⟨hne, htrim, hplain, hvalues, hvalues'⟩ => ⟨hne, htrim, hplain, hvalues, hvalues'⟩⟩

/-- The expression is read as a condition that holds always, or it has an operator behind a target
that is not blank. -/
theorem readExpression_cases (text : List Char) :
    (readExpression text).condition = .always ∨
      ∃ left op right, splitAtOperator? (trim text) = some (left, op, right) ∧ trim left ≠ [] ∧
        readExpression text = ⟨.comparing (.ofList (trim left)) op
          ((splitValues (trim right)).map String.ofList), none⟩ := by
  cases h : splitAtOperator? (trim text) with
  | none =>
    left
    simp only [readExpression, h]
    split <;> rfl
  | some split =>
    obtain ⟨left, op, right⟩ := split
    by_cases hne : trim left = []
    · left
      simp [readExpression, h, hne]
    · right
      refine ⟨left, op, right, rfl, hne, ?_⟩
      simp [readExpression, h, hne]

/-- What an expression is read as holds always, or can be written. -/
theorem readExpression_writable (text : List Char) :
    (readExpression text).condition = .always ∨
      ∃ target op values, (readExpression text).condition = .comparing target op values ∧
        Writable target values := by
  refine (readExpression_cases text).imp_right ?_
  rintro ⟨left, op, right, hsplit, hne, h⟩
  refine ⟨.ofList (trim left), op, (splitValues (trim right)).map .ofList, by rw [h], ?_⟩
  constructor
  · exact fun hnil => hne (String.ofList_eq_empty_iff.1 hnil)
  · rw [String.toList_ofList, trim_trim]
  · rw [String.toList_ofList]
    have hplain := (isSplit_of_splitAtOperator? hsplit).left_plain
    exact fun c hc => hplain c (mem_of_mem_trim hc)
  · intro value hvalue
    obtain ⟨value, hmem, rfl⟩ := List.mem_map.1 hvalue
    rw [String.toList_ofList]
    exact trim_of_mem_splitValues hmem
  · intro hvalues
    obtain ⟨value, hvalue, hnil⟩ := List.map_eq_singleton_iff.1 hvalues
    rw [String.ofList_eq_empty_iff.1 hnil] at hvalue
    exact splitValues_ne _ hvalue

/-- The symbol of an operator is not empty and no blank is at its ends. -/
theorem trim_symbol (op : Operator) :
    trim op.symbol.toList = op.symbol.toList ∧ op.symbol.toList ≠ [] := by
  cases op <;> decide

/-- Trimming a written expression takes blanks from the end of the list of values only. -/
theorem trim_writeExpression {target : List Char} (htrim : trim target = target)
    (hne : target ≠ []) (op : Operator) (values : List (List Char)) :
    ∃ right, trim (writeExpression target op values) =
        target ++ ' ' :: (op.symbol.toList ++ right) ∧
      (∀ rest, right ≠ '=' :: rest) ∧ trim right = trim (joinValues values) := by
  obtain ⟨hsymbol, hsymbol'⟩ := trim_symbol op
  obtain ⟨l, r, hl, hr, hjoin⟩ := exists_eq_append_trim (joinValues values)
  have hwrite : writeExpression target op values =
      target ++ [' '] ++ op.symbol.toList ++ (' ' :: joinValues values) := by
    simp [writeExpression]
  by_cases hnil : trim (joinValues values) = []
  · -- Behind the symbol there are blanks only.
    have hblank : isBlankText (' ' :: joinValues values) = true :=
      isBlankText_iff.2 (List.forall_mem_cons.2
        ⟨rfl, isBlankText_iff.1 (trim_eq_nil_iff.1 hnil)⟩)
    refine ⟨[], ?_, by simp, hnil.symm⟩
    rw [hwrite, trim_append_right hblank, trim_append_append htrim hsymbol hne hsymbol']
    simp
  · -- The values end the trimmed expression.
    refine ⟨' ' :: (l ++ trim (joinValues values)), ?_, by simp, ?_⟩
    · have hsplit : writeExpression target op values =
          target ++ ([' '] ++ op.symbol.toList ++ [' '] ++ l) ++ trim (joinValues values) ++ r := by
        rw [hwrite]
        conv_lhs => rw [hjoin]
        simp
      rw [hsplit, trim_append_right hr, trim_append_append htrim (trim_trim _) hne hnil]
      simp
    · have hblank : isBlankText (' ' :: l) = true :=
        isBlankText_iff.2 (List.forall_mem_cons.2 ⟨rfl, isBlankText_iff.1 hl⟩)
      rw [← List.cons_append, trim_append_left hblank, trim_trim]

/-- A plain target and a blank stand before the operator, which nothing makes longer. -/
theorem splitAtOperator?_target {target right : List Char} (hplain : IsPlain target)
    (op : Operator) (hright : ∀ rest, right ≠ '=' :: rest) :
    splitAtOperator? (target ++ ' ' :: (op.symbol.toList ++ right)) =
      some (target ++ [' '], op, right) := by
  have hleft : IsPlain (target ++ [' ']) := by
    intro c hc
    rcases List.mem_append.1 hc with hc | hc
    · exact hplain c hc
    · rw [List.mem_singleton.1 hc]
      decide
  -- The blank keeps an exclamation mark of the target apart from the operator.
  have hmark : ∀ rest, target ++ [' '] ≠ rest ++ ['!'] := by
    intro rest hrest
    exact absurd (List.append_inj_right' hrest rfl) (by decide)
  rw [← splitAtOperator?_append hleft (fun _ => hmark) (fun _ => hright)]
  simp

/-- A written list of trimmed values is read back from a text that has it between blanks. -/
theorem splitValues_of_trim_eq {values : List String} {right : List Char} (hne : values ≠ [""])
    (hvalues : ∀ value ∈ values, trim value.toList = value.toList)
    (h : trim right = trim (joinValues (values.map String.toList))) :
    splitValues (trim right) = values.map String.toList := by
  rw [h, splitValues_trim]
  refine splitValues_joinValues ?_ ?_
  · intro hnil
    obtain ⟨value, rfl, hvalue⟩ := List.map_eq_singleton_iff.1 hnil
    exact hne (by rw [String.toList_eq_nil_iff.1 hvalue])
  · intro value hvalue
    obtain ⟨value, hmem, rfl⟩ := List.mem_map.1 hvalue
    exact hvalues value hmem

/-- A written expression is read with the same target, operator and values, and without a
warning. -/
theorem readExpression_writeExpression {target : String} {values : List String} (op : Operator)
    (h : Writable target values) :
    readExpression (writeExpression target.toList op (values.map String.toList)) =
      ⟨.comparing target op values, none⟩ := by
  have hne : target.toList ≠ [] := fun hnil => h.target_ne (String.toList_eq_nil_iff.1 hnil)
  obtain ⟨right, htrim, hright, hvalues⟩ :=
    trim_writeExpression h.target_trim hne op (values.map String.toList)
  have hsplit : splitAtOperator? (trim (writeExpression target.toList op
      (values.map String.toList))) = some (target.toList ++ [' '], op, right) := by
    rw [htrim, splitAtOperator?_target h.target_plain op hright]
  have hleft : trim (target.toList ++ [' ']) = target.toList := by
    rw [trim_append_right rfl, h.target_trim]
  have hread : splitValues (trim right) = values.map String.toList :=
    splitValues_of_trim_eq h.values_ne h.values_trim hvalues
  simp [readExpression, hsplit, hleft, hne, hread, Function.comp_def]

end RequiredFields.Directive
