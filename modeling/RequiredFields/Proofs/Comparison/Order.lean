import Mathlib
import RequiredFields.Condition.Evaluation

/-!
# The laws of the comparison of texts

Two orders are joined here, that of whole numbers for two texts that are both numbers, and that of
code points for all others. Each is lawful on its own. Together they are still reflexive and turn
around with their arguments, since which of the two is taken depends on the pair and not on its
order (`compare_swap`). They are transitive on three texts unless exactly two of these are numbers:
otherwise one order is taken for all three pairs (`isTransitiveOn_of_numbersAmong`). With two
numbers among them there are texts on which the comparison goes round in a circle
(`compare_lawful`).
-/

namespace RequiredFields

namespace Text

/-- Texts are ordered as lists of code points. -/
theorem compare_eq_compareLex (s t : List Char) :
    compare s t = List.compareLex (compareOn Char.toNat) s t := by
  fun_induction compare s t with
  | case1 | case2 | case3 => rfl
  | case4 a s b t h =>
    rw [List.compareLex_cons_cons, compareOn, Nat.compare_eq_lt.2 h]
    rfl
  | case5 a s b t h h' =>
    rw [List.compareLex_cons_cons, compareOn, Nat.compare_eq_gt.2 h']
    rfl
  | case6 a s b t h h' ih =>
    rw [List.compareLex_cons_cons, compareOn, Nat.compare_eq_eq.2 (by omega), ih]
    rfl

instance : Std.TransCmp compare := by
  rw [funext₂ compare_eq_compareLex]
  infer_instance

end Text

namespace Comparison

/-- Whole numbers are ordered as usual. -/
theorem compareInt_eq (x y : Int) : compareInt x y = Ord.compare x y := by
  unfold compareInt
  split_ifs with hlt hgt
  · exact (compare_lt_iff_lt.2 hlt).symm
  · exact (compare_gt_iff_gt.2 hgt).symm
  · exact (compare_eq_iff_eq.2 (by omega)).symm

instance : Std.TransCmp compareInt := by
  rw [funext₂ compareInt_eq]
  infer_instance

/-- Whether a text is a finite number. -/
def isNumber (text : String) : Bool :=
  (number? text).isSome

/-- How many of some texts are finite numbers. -/
def numbersAmong (texts : List String) : Nat :=
  texts.countP isNumber

/-- From one text to a second and from there to a third the order does not turn around, and it is
strict if one of the steps is. -/
def IsTransitiveOn (c : Comparison) (first second third : String) : Prop :=
  c.compare first second ≠ .gt → c.compare second third ≠ .gt →
    c.compare first third ≠ .gt ∧
      (c.compare first second = .lt ∨ c.compare second third = .lt → c.compare first third = .lt)

instance (c : Comparison) (first second third : String) :
    Decidable (c.IsTransitiveOn first second third) :=
  inferInstanceAs (Decidable (_ → _ → _ ∧ (_ → _)))

variable {c : Comparison} {left right : String}

/-- Two numbers are ordered as numbers. -/
theorem compare_of_numbers (hc : c.numeric = true) {x y : Int} (hleft : number? left = some x)
    (hright : number? right = some y) : c.compare left right = compareInt x y := by
  simp only [compare, hc, hleft, hright]

/-- If one of two texts is no number, or numbers are not asked for, both are ordered as texts. -/
theorem compare_of_text
    (h : c.numeric = false ∨ isNumber left = false ∨ isNumber right = false) :
    c.compare left right = Text.compare left.toList right.toList := by
  unfold compare
  split
  · simp_all [isNumber]
  · rfl

/-- Exchanging the texts turns their order around. -/
theorem compare_swap (c : Comparison) (left right : String) :
    c.compare right left = (c.compare left right).swap := by
  by_cases h : c.numeric = false ∨ isNumber left = false ∨ isNumber right = false
  · rw [compare_of_text h, compare_of_text (h.imp_right Or.symm)]
    exact Std.OrientedCmp.eq_swap
  · simp only [not_or, Bool.not_eq_false] at h
    obtain ⟨hc, hleft, hright⟩ := h
    obtain ⟨x, hx⟩ := Option.isSome_iff_exists.1 hleft
    obtain ⟨y, hy⟩ := Option.isSome_iff_exists.1 hright
    rw [compare_of_numbers hc hx hy, compare_of_numbers hc hy hx]
    exact Std.OrientedCmp.eq_swap

/-- A text is equal to itself. -/
theorem compare_self (c : Comparison) (text : String) : c.compare text text = .eq := by
  have hswap := c.compare_swap text text
  cases h : c.compare text text with
  | eq => rfl
  | lt | gt =>
    rw [h] at hswap
    contradiction

/-- The comparison is transitive where one lawful order is taken for all three pairs. -/
theorem isTransitiveOn_of_cmp {α : Type} {cmp : α → α → Ordering} [Std.TransCmp cmp] {x y z : α}
    {first second third : String} (hfirst : c.compare first second = cmp x y)
    (hsecond : c.compare second third = cmp y z) (hboth : c.compare first third = cmp x z) :
    c.IsTransitiveOn first second third := by
  unfold IsTransitiveOn
  rw [hfirst, hsecond, hboth]
  intro hxy hyz
  have hle := Ordering.isLE_iff_ne_gt.2 hxy
  have hle' := Ordering.isLE_iff_ne_gt.2 hyz
  refine ⟨Ordering.isLE_iff_ne_gt.1 (Std.TransCmp.isLE_trans hle hle'), ?_⟩
  rintro (hlt | hlt)
  · exact Std.TransCmp.lt_of_lt_of_isLE hlt hle'
  · exact Std.TransCmp.lt_of_isLE_of_lt hle hlt

/-- Of three texts that are neither all numbers nor two numbers and another text, no two are
numbers. -/
theorem isNumber_of_numbersAmong {first second third : String}
    (hthree : ¬ (isNumber first = true ∧ isNumber second = true ∧ isNumber third = true))
    (htwo : numbersAmong [first, second, third] ≠ 2) :
    (isNumber first = false ∨ isNumber second = false) ∧
      (isNumber second = false ∨ isNumber third = false) ∧
      (isNumber first = false ∨ isNumber third = false) := by
  simp only [numbersAmong, List.countP_cons, List.countP_nil] at htwo
  cases hfirst : isNumber first <;> cases hsecond : isNumber second <;>
    cases hthird : isNumber third <;> simp [hfirst, hsecond, hthird] at hthree htwo ⊢

/-- The comparison is transitive on three texts, unless two of them are numbers and one is not. -/
theorem isTransitiveOn_of_numbersAmong {first second third : String}
    (h : c.numeric = false ∨ numbersAmong [first, second, third] ≠ 2) :
    c.IsTransitiveOn first second third := by
  by_cases hoff : c.numeric = false
  · exact isTransitiveOn_of_cmp (compare_of_text (.inl hoff)) (compare_of_text (.inl hoff))
      (compare_of_text (.inl hoff))
  have hc : c.numeric = true := Bool.eq_true_of_not_eq_false hoff
  -- Now all three pairs are compared as numbers, or none of them is.
  by_cases hthree : isNumber first = true ∧ isNumber second = true ∧ isNumber third = true
  · obtain ⟨hfirst, hsecond, hthird⟩ := hthree
    obtain ⟨x, hx⟩ := Option.isSome_iff_exists.1 hfirst
    obtain ⟨y, hy⟩ := Option.isSome_iff_exists.1 hsecond
    obtain ⟨z, hz⟩ := Option.isSome_iff_exists.1 hthird
    exact isTransitiveOn_of_cmp (compare_of_numbers hc hx hy) (compare_of_numbers hc hy hz)
      (compare_of_numbers hc hx hz)
  · obtain ⟨hfirst, hsecond, hboth⟩ := isNumber_of_numbersAmong hthree (h.resolve_left hoff)
    exact isTransitiveOn_of_cmp (compare_of_text (.inr hfirst)) (compare_of_text (.inr hsecond))
      (compare_of_text (.inr hboth))

/-- The comparison is lawful except where it mixes its two orders. A text is equal to itself, and
exchanging two texts turns their order around. On three texts the comparison is transitive if
numbers are not asked for, or if not exactly two of the texts are numbers; whichever two of them are
numbers, there are texts on which it is not. If numbers are not asked for, only a text itself is
equal to it. -/
theorem compare_lawful (c : Comparison) :
    (∀ text, c.compare text text = .eq) ∧
    (∀ left right, c.compare right left = (c.compare left right).swap) ∧
    (∀ first second third, c.numeric = false ∨ numbersAmong [first, second, third] ≠ 2 →
      c.IsTransitiveOn first second third) ∧
    (c.numeric = true →
      ∀ kinds ∈ [[false, true, true], [true, false, true], [true, true, false]],
        ∃ first second third, [first, second, third].map isNumber = kinds ∧
          ¬ c.IsTransitiveOn first second third) ∧
    (c.numeric = false → ∀ left right, c.compare left right = .eq → left = right) := by
  refine ⟨c.compare_self, c.compare_swap, fun _ _ _ => isTransitiveOn_of_numbersAmong, ?_, ?_⟩
  · intro hc
    obtain rfl : c = ⟨true⟩ := congrArg mk hc
    simp only [List.forall_mem_cons]
    refine ⟨⟨"1a", "9", "10", ?_⟩, ⟨"10", "1a", "9", ?_⟩, ⟨"9", "10", "1a", ?_⟩, by simp⟩ <;>
      decide +kernel
  · intro hc left right heq
    rw [compare_of_text (.inl hc), Text.compare_eq_iff] at heq
    exact String.toList_inj.1 heq

/-- Three spellings of numbers and a text that is none: the laws hold of the numbers, and of one
number among other texts. -/
theorem compare_lawful_spellings :
    (numbersAmong ["9", "1e1", " 10.0 "] ≠ 2 ∧ IsTransitiveOn ⟨true⟩ "9" "1e1" " 10.0 ") ∧
    (numbersAmong ["10", "1a", "inf"] ≠ 2 ∧ IsTransitiveOn ⟨true⟩ "10" "1a" "inf") := by
  have hthree : numbersAmong ["9", "1e1", " 10.0 "] ≠ 2 := by decide +kernel
  have hone : numbersAmong ["10", "1a", "inf"] ≠ 2 := by decide +kernel
  exact ⟨⟨hthree, (compare_lawful ⟨true⟩).2.2.1 _ _ _ (.inr hthree)⟩,
    ⟨hone, (compare_lawful ⟨true⟩).2.2.1 _ _ _ (.inr hone)⟩⟩

end Comparison

end RequiredFields
