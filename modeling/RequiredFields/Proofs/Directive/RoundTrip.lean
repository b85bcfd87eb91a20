import RequiredFields.Proofs.Directive.Expression
import RequiredFields.Proofs.Directive.Surroundings

/-!
# The written form of a condition

What a directive can ask for is known exactly (`condition?_image`): always, or a comparison whose
target and values are `Writable`. `writeCondition` writes both, and what it writes is read as the
same condition, so that writing what was read and reading it again changes nothing. Reading a
written condition undoes the two layers of backslashes one after the other: the group's by
`unescape_escape`, those of the list of values by `readExpression_writeExpression`.
-/

namespace RequiredFields.Directive

open Text

/-- The directive that asks for a condition: the marker alone for one that holds always. -/
def writeCondition (d : Directive) (c : Condition) : String :=
  match c.target, c.operator with
  | some target, some op => .ofList (d.write target.toList op (c.values.map String.toList))
  | _, _ => d.marker

/-- A written comparison is the marker and a group with the escaped expression. -/
theorem writeCondition_comparing (d : Directive) (target : String) (op : Operator)
    (values : List String) :
    d.writeCondition (.comparing target op values) = d.marker ++ "" ++ "(" ++
      .ofList (escape (writeExpression target.toList op (values.map String.toList))) ++ ")" := by
  rw [← String.toList_inj]
  simp [writeCondition, Condition.comparing, write]

/-- The body of a written comparison is balanced and is read as that comparison. -/
theorem readExpression_escape {target : String} {values : List String} (op : Operator)
    (h : Writable target values) :
    let body := escape (writeExpression target.toList op (values.map String.toList))
    Balanced (String.ofList body).toList ∧
      readExpression (unescape (String.ofList body).toList) =
        ⟨.comparing target op values, none⟩ := by
  intro body
  rw [String.toList_ofList, unescape_escape]
  exact ⟨balanced_escape _, readExpression_writeExpression op h⟩

/-- A written comparison is read back. -/
theorem find?_writeCondition (d : Directive) {target : String} {values : List String}
    (op : Operator) (h : Writable target values) :
    d.find? (d.writeCondition (.comparing target op values)) =
      some ⟨.comparing target op values, none⟩ := by
  obtain ⟨hbody, hread⟩ := readExpression_escape op h
  have hgroup := find?_group d (w := "") rfl hbody ""
  rw [String.append_empty, hread] at hgroup
  rw [writeCondition_comparing, hgroup]

/-- A written comparison is read back behind any text that does not carry the directive, and in
front of any text. -/
theorem find?_append_writeCondition {d : Directive} (hk : '$' ∉ d.keyword.toList) {p : String}
    (hp : d.isIn p = false) {target : String} {values : List String} (op : Operator)
    (h : Writable target values) (s : String) :
    d.find? (p ++ d.writeCondition (.comparing target op values) ++ s) =
      some ⟨.comparing target op values, none⟩ := by
  obtain ⟨hbody, hread⟩ := readExpression_escape op h
  rw [writeCondition_comparing, find?_append_group hk hp rfl hbody s, hread]

/-- The marker alone asks for the field always. -/
theorem find?_marker (d : Directive) : d.find? d.marker = some ⟨.always, none⟩ := by
  have hmarker : afterMarker? d.keyword.toList d.marker.toList = some [] := by
    have h : afterMarker? d.keyword.toList ('$' :: (d.keyword.toList ++ [])) = some [] :=
      afterMarker?_marker d.keyword.toList rfl
    rwa [List.append_nil, ← toList_marker] at h
  unfold find?
  rw [hmarker]
  rfl

/-- What a group is read as holds always, or can be written. -/
theorem readGroup_writable (description : String) (rest : List Char) :
    (readGroup description rest).condition = .always ∨
      ∃ target op values, (readGroup description rest).condition = .comparing target op values ∧
        Writable target values := by
  unfold readGroup
  split
  · split
    · exact readExpression_writable _
    · exact .inl rfl
  · exact .inl rfl

/-- What a description asks for holds always, or can be written. -/
theorem condition?_writable {d : Directive} {description : String} {c : Condition}
    (h : d.condition? description = some c) :
    c = .always ∨ ∃ target op values, c = .comparing target op values ∧ Writable target values := by
  simp only [condition?, find?, Option.map_map, Option.map_eq_some_iff] at h
  obtain ⟨rest, -, rfl⟩ := h
  exact readGroup_writable description rest

/-- The conditions that descriptions ask for are the one that holds always and the comparisons of a
writable target with writable values. Each of them is read from its written form, so a condition
that was read is read again from what is written for it. -/
theorem condition?_image (d : Directive) :
    (∀ description c, d.condition? description = some c →
      c = .always ∨
        ∃ target op values, c = .comparing target op values ∧ Writable target values) ∧
    (∀ target op values, Writable target values →
      d.condition? (d.writeCondition (.comparing target op values)) =
        some (.comparing target op values)) ∧
    (∀ description c, d.condition? description = some c →
      d.condition? (d.writeCondition c) = some c) := by
  have hwrite : ∀ target op values, Writable target values →
      d.condition? (d.writeCondition (.comparing target op values)) =
        some (.comparing target op values) := by
    intro target op values h
    rw [condition?, find?_writeCondition d op h, Option.map_some]
  refine ⟨fun description c h => condition?_writable h, hwrite, ?_⟩
  intro description c h
  obtain rfl | ⟨target, op, values, rfl, hc⟩ := condition?_writable h
  · show (d.find? d.marker).map (·.condition) = some .always
    rw [find?_marker, Option.map_some]
  · exact hwrite target op values hc

/-- A target that ends in an exclamation mark, a value that ends in a backslash, an empty value, and
one with a comma behind a parenthesis, each next to what could be taken for its continuation. -/
theorem condition?_image_nested :
    let d : Directive := {}
    let c : Condition := .comparing "a!" .eq ["x\\", "", "(1,2"]
    Writable "a!" ["x\\", "", "(1,2"] ∧
      d.writeCondition c = "$mandatoryIf(a! = x\\\\ \\,  \\, \\(1\\\\\\,2)" ∧
      d.condition? (d.writeCondition c) = some c ∧
      d.condition? (d.writeCondition .always) = some .always := by
  intro d c
  have hc : Writable "a!" ["x\\", "", "(1,2"] := by decide
  have halways : d.condition? "$mandatoryIf(a!)" = some .always := by decide +kernel
  exact ⟨hc, by decide, (condition?_image d).2.1 _ .eq _ hc, (condition?_image d).2.2 _ _ halways⟩

end RequiredFields.Directive
