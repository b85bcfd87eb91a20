import RequiredFields.Condition.Evaluation

/-!
# Operators and their opposites

Each operator has an opposite. Between a value that is not empty and a list of literals that is not
empty exactly one of the two holds (`satisfies_opposite`): the list contains the value or not, and
of an order the operators that allow equality admit what the strict ones leave (`admits_opposite`).
An empty value or an empty list breaks the pairs. There is nothing to order then, so that neither
range operator of a pair holds, and `=` and `!=` share out the four cases by rules of their own
(`satisfies_empty`, `satisfies_nil`).
-/

namespace RequiredFields

namespace Operator

/-- The operator that holds where this one does not. -/
def opposite : Operator → Operator
  | eq => ne
  | ne => eq
  | gt => le
  | le => gt
  | lt => ge
  | ge => lt

/-- A range operator admits the orders that its opposite does not admit. -/
theorem admits_opposite {op : Operator} (hop : op.isRange = true) (o : Ordering) :
    op.opposite.admits o = !op.admits o := by
  cases op with
  | eq | ne => contradiction
  | gt | ge | lt | le => cases o <;> rfl

/-- No order is admitted by both strict operators. -/
theorem not_admits_lt_and_gt (o : Ordering) : ¬ (lt.admits o = true ∧ gt.admits o = true) := by
  cases o <;> decide

end Operator

namespace Condition

variable {c : Comparison} {op : Operator} {values values' : List String} {value : String}

/-! ## One operator at a time -/

/-- A range operator admits a value that is not empty by its order to the first literal. -/
theorem satisfies_range (hop : op.isRange = true) (values : List String) (value : String) :
    satisfies c op values value =
      values.head?.any fun literal => !value.isEmpty && op.admits (c.compare value literal) := by
  cases op with
  | eq | ne => contradiction
  | gt | ge | lt | le => cases values <;> rfl

/-- A range operator orders a value that is not empty and the first literal. -/
theorem satisfies_range_cons (hop : op.isRange = true) (hvalue : value ≠ "") (literal : String)
    (rest : List String) :
    satisfies c op (literal :: rest) value = op.admits (c.compare value literal) := by
  have hfilled : value.isEmpty = false := by simpa using hvalue
  rw [satisfies_range hop, List.head?_cons, Option.any_some, hfilled, Bool.not_false, Bool.true_and]

/-- A value that is not empty equals a list that contains it. -/
theorem satisfies_eq (hvalue : value ≠ "") :
    satisfies c .eq values value = values.contains value := by
  simp [satisfies, hvalue]

/-- A value that is not empty is different from a list that does not contain it. -/
theorem satisfies_ne (hvalue : value ≠ "") :
    satisfies c .ne values value = !values.contains value := by
  simp [satisfies, hvalue]

/-- Of an empty value only `=` can hold, namely for an empty list and for an empty literal. -/
theorem satisfies_empty :
    satisfies c op values "" = true ↔ op = .eq ∧ (values = [] ∨ "" ∈ values) := by
  cases op with
  | eq => simp [satisfies]
  | ne => simp [satisfies]
  | gt | ge | lt | le =>
    rw [satisfies_range rfl]
    cases values.head? <;> simp

/-- Of a value that is not empty and an empty list only `!=` holds. -/
theorem satisfies_nil (hvalue : value ≠ "") : satisfies c op [] value = true ↔ op = .ne := by
  cases op with
  | eq => simp [satisfies_eq hvalue]
  | ne => simp [satisfies_ne hvalue]
  | gt | ge | lt | le =>
    rw [satisfies_range rfl]
    simp

/-! ## Two operators, two lists -/

/-- Of a value and a list that are not empty an operator holds exactly if its opposite does not. -/
theorem satisfies_opposite (hvalue : value ≠ "") (hvalues : values ≠ []) (op : Operator) :
    satisfies c op.opposite values value = !satisfies c op values value := by
  cases op with
  | eq => rw [Operator.opposite, satisfies_ne hvalue, satisfies_eq hvalue]
  | ne => rw [Operator.opposite, satisfies_eq hvalue, satisfies_ne hvalue, Bool.not_not]
  | gt | ge | lt | le =>
    obtain ⟨literal, rest, rfl⟩ := List.exists_cons_of_ne_nil hvalues
    rw [satisfies_range_cons rfl hvalue, satisfies_range_cons rfl hvalue,
      Operator.admits_opposite rfl]

/-- `=` and `!=` look at the literals as a set. -/
theorem satisfies_congr_mem (hop : op.isRange = false) (h : ∀ x, x ∈ values ↔ x ∈ values')
    (value : String) : satisfies c op values value = satisfies c op values' value := by
  have hcontains : values.contains value = values'.contains value := by
    rw [Bool.eq_iff_iff, List.contains_iff_mem, List.contains_iff_mem]
    exact h value
  have hnil : values.isEmpty = values'.isEmpty := by
    rw [Bool.eq_iff_iff, List.isEmpty_iff, List.isEmpty_iff, List.eq_nil_iff_forall_not_mem,
      List.eq_nil_iff_forall_not_mem]
    exact forall_congr' fun x => not_congr (h x)
  cases op with
  | eq => simp only [satisfies, hcontains, hnil]
  | ne => simp only [satisfies, hcontains]
  | gt | ge | lt | le => contradiction

/-- The range operators look at the first literal. -/
theorem satisfies_congr_head (hop : op.isRange = true) (h : values.head? = values'.head?)
    (value : String) : satisfies c op values value = satisfies c op values' value := by
  rw [satisfies_range hop, satisfies_range hop, h]

/-! ## All six operators -/

/-- The six operators share out all cases, whatever the target is called and whether or not numbers
are ordered as numbers. Of an absent or empty value only `=` can hold, and it holds exactly for an
empty list and for a list with the empty text. Of any other value and an empty list only `!=` holds.
Of a value and a list that are not empty exactly one operator of each pair of opposites holds, and
never both of `<` and `>`. Two lists with the same members are the same to `=` and `!=`, and two
lists with the same first literal, or both without one, are the same to the range operators. -/
theorem holds_partition (c : Comparison) (target : String) (values : List String)
    (value : Option String) :
    let holds (op : Operator) (values : List String) : Bool :=
      (comparing target op values).holds c value
    (value.getD "" = "" →
      ∀ op, holds op values = true ↔ op = .eq ∧ (values = [] ∨ "" ∈ values)) ∧
    (value.getD "" ≠ "" → values = [] → ∀ op, holds op values = true ↔ op = .ne) ∧
    (value.getD "" ≠ "" → values ≠ [] →
      (∀ op, holds op.opposite values = !holds op values) ∧
      ¬ (holds .lt values = true ∧ holds .gt values = true)) ∧
    (∀ values', (∀ x, x ∈ values ↔ x ∈ values') →
      ∀ op, op.isRange = false → holds op values = holds op values') ∧
    (∀ values', values.head? = values'.head? →
      ∀ op, op.isRange = true → holds op values = holds op values') := by
  intro holds
  have hholds : ∀ op values, holds op values = satisfies c op values (value.getD "") :=
    fun _ _ => rfl
  simp only [hholds]
  refine ⟨?_, ?_, ?_, ?_, ?_⟩
  · intro hvalue op
    rw [hvalue]
    exact satisfies_empty
  · rintro hvalue rfl op
    exact satisfies_nil hvalue
  · intro hvalue hvalues
    refine ⟨satisfies_opposite hvalue hvalues, ?_⟩
    obtain ⟨literal, rest, rfl⟩ := List.exists_cons_of_ne_nil hvalues
    rw [satisfies_range_cons rfl hvalue, satisfies_range_cons rfl hvalue]
    exact Operator.not_admits_lt_and_gt _
  · exact fun values' h op hop => satisfies_congr_mem hop h _
  · exact fun values' h op hop => satisfies_congr_head hop h _

/-- Each part at a list that a wrong guard would get wrong: an empty literal behind another one and
no value, no literal at all, a number that comes before its literal as a text only, a list in
another order with a member twice, and literals behind the first one. -/
theorem holds_partition_lists :
    let holds (op : Operator) (values : List String) (value : Option String) : Bool :=
      (comparing "a" op values).holds ⟨true⟩ value
    (holds .eq ["x", ""] none = true ∧ holds .ge ["x", ""] none ≠ true) ∧
    (holds .ne [] (some "x") = true ∧ holds .le [] (some "x") ≠ true) ∧
    (holds .ge ["9", "11"] (some "10") = !holds .lt ["9", "11"] (some "10")) ∧
    (holds .ne ["x", "y", "x"] (some "z") = holds .ne ["y", "x"] (some "z")) ∧
    (holds .le ["9", "11"] (some "10") = holds .le ["9"] (some "10")) := by
  have hfilled : ∀ text : String, text ≠ "" → (some text).getD "" ≠ "" := fun _ h => h
  have hempty := (holds_partition ⟨true⟩ "a" ["x", ""] none).1 rfl
  have hnil := (holds_partition ⟨true⟩ "a" [] (some "x")).2.1 (hfilled "x" (by decide)) rfl
  have hnumbers := (holds_partition ⟨true⟩ "a" ["9", "11"] (some "10")).2.2.1
    (hfilled "10" (by decide)) (by decide)
  refine ⟨⟨(hempty _).2 ⟨rfl, .inr (by decide)⟩, ?_⟩, ⟨(hnil _).2 rfl, ?_⟩, hnumbers.1 .lt, ?_, ?_⟩
  · exact fun h => absurd ((hempty _).1 h).1 (by decide)
  · exact fun h => absurd ((hnil _).1 h) (by decide)
  · refine (holds_partition ⟨true⟩ "a" ["x", "y", "x"] (some "z")).2.2.2.1 ["y", "x"] ?_ .ne rfl
    simp [or_comm]
  · exact (holds_partition ⟨true⟩ "a" ["9", "11"] (some "10")).2.2.2.2 ["9"] rfl .le rfl

end Condition

end RequiredFields
