/-!
# The order of texts

Texts are ordered by the code points of their characters, the first difference deciding; a text
comes before its extensions.
-/

namespace RequiredFields.Text

/-- The order of two texts. -/
def compare : List Char → List Char → Ordering
  | [], [] => .eq
  | [], _ :: _ => .lt
  | _ :: _, [] => .gt
  | a :: s, b :: t =>
    if a.toNat < b.toNat then .lt else if b.toNat < a.toNat then .gt else compare s t

/-- Only equal texts compare as equal. -/
theorem compare_eq_iff {s t : List Char} : compare s t = .eq ↔ s = t := by
  induction s generalizing t with
  | nil => cases t <;> simp [compare]
  | cons a s ih =>
    cases t with
    | nil => simp [compare]
    | cons b t =>
      rw [compare, List.cons.injEq]
      split
      · next h =>
        have hab : a ≠ b := fun hab => by simp [hab] at h
        simp [hab]
      · split
        · next h =>
          have hab : a ≠ b := fun hab => by simp [hab] at h
          simp [hab]
        · next h₁ h₂ =>
          have hab : a = b := Char.toNat_inj.1 (by omega)
          simp [ih, hab]

end RequiredFields.Text
