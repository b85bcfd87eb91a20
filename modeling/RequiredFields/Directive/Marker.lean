import RequiredFields.Text.Alphanumeric

/-!
# Finding the marker

A directive starts with its marker, a `$` and a keyword. The marker stands alone when no word
character follows it; one that a word character follows belongs to a longer keyword, and the search
goes on behind it.
-/

namespace RequiredFields.Directive

/-- The text after the first occurrence of `marker`. -/
def after? (marker : List Char) : List Char → Option (List Char)
  | [] => if marker.isEmpty then some [] else none
  | c :: text =>
    if marker.isPrefixOf (c :: text) then some ((c :: text).drop marker.length)
    else after? marker text

/-- What follows an occurrence is shorter than the text by at least the marker. -/
theorem length_of_after? {marker text rest : List Char} (h : after? marker text = some rest) :
    rest.length + marker.length ≤ text.length := by
  induction text with
  | nil =>
    simp only [after?] at h
    split at h
    · next hm => simp_all
    · contradiction
  | cons c text ih =>
    simp only [after?] at h
    split at h
    · next hp =>
      have hle := (List.isPrefixOf_iff_prefix.1 hp).length_le
      obtain rfl := Option.some.inj h
      simp only [List.length_drop]
      omega
    · have := ih h
      simp only [List.length_cons]
      omega

/-- Whether a text goes on with a word character. -/
def startsWithWordChar : List Char → Bool
  | [] => false
  | c :: _ => Text.isWordChar c

/-- The text after the first marker `$keyword` that stands alone. An occurrence that a word
character follows is passed over as a whole. -/
def afterMarker? (keyword text : List Char) : Option (List Char) :=
  match h : after? ('$' :: keyword) text with
  | none => none
  | some rest =>
    have : rest.length < text.length := by
      have := length_of_after? h
      simp only [List.length_cons] at this
      omega
    if startsWithWordChar rest then afterMarker? keyword rest else some rest
termination_by text.length

end RequiredFields.Directive
