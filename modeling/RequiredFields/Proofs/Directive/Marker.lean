import RequiredFields.Directive.Marker

/-!
# The marker in its surroundings

The search for the first marker that stands alone is not disturbed by the text around it. A keyword
without `$` has no two overlapping markers, so that an occurrence lies in the text before the
directive, or is the directive's own, or comes behind it (`after?_append`, `after?_append_marker`).
Where the text before has no marker that stands alone, the search passes over the same occurrences
as in that text by itself and then stops at the directive (`afterMarker?_append_marker`).
-/

namespace RequiredFields.Directive

/-- A text that goes on has the first occurrence of the marker at the same place. -/
theorem after?_append {marker text rest : List Char} (h : after? marker text = some rest)
    (tail : List Char) : after? marker (text ++ tail) = some (rest ++ tail) := by
  induction text with
  | nil =>
    simp only [after?] at h
    split at h
    · next hm =>
      obtain rfl := List.isEmpty_iff.1 hm
      obtain rfl := Option.some.inj h
      cases tail <;> simp [after?]
    · contradiction
  | cons c text ih =>
    simp only [after?] at h
    rw [List.cons_append, after?]
    split at h
    · next hp =>
      have hp' := List.isPrefixOf_iff_prefix.1 hp
      have hp'' : marker <+: c :: (text ++ tail) := List.prefix_append_of_prefix hp'
      obtain rfl := Option.some.inj h
      rw [if_pos (List.isPrefixOf_iff_prefix.2 hp''), ← List.cons_append,
        List.drop_append_of_le_length hp'.length_le]
    · next hp =>
      -- The marker occurs further on, so it is not longer than the text before `tail`.
      have hlen := length_of_after? h
      have hp' : ¬ marker.isPrefixOf (c :: (text ++ tail)) = true := fun hm => by
        refine hp (List.isPrefixOf_iff_prefix.2 ?_)
        refine List.prefix_of_prefix_length_le (List.isPrefixOf_iff_prefix.1 hm)
          (List.prefix_append (c :: text) tail) ?_
        rw [List.length_cons]
        omega
      rw [if_neg hp', ih h]

/-- A marker is found at the start of a text. -/
theorem after?_marker (keyword tail : List Char) :
    after? ('$' :: keyword) ('$' :: (keyword ++ tail)) = some tail := by
  rw [after?, ← List.cons_append, if_pos (List.isPrefixOf_iff_prefix.2 (List.prefix_append _ tail))]
  exact congrArg some List.drop_left

/-- Behind a text without the marker, a marker is the first occurrence: none can start in the text
and end in the marker, which has its `$` in front only. -/
theorem after?_append_marker {keyword text : List Char} (hk : '$' ∉ keyword)
    (h : after? ('$' :: keyword) text = none) (tail : List Char) :
    after? ('$' :: keyword) (text ++ '$' :: (keyword ++ tail)) = some tail := by
  induction text with
  | nil => exact after?_marker keyword tail
  | cons c text ih =>
    simp only [after?] at h
    rw [List.cons_append, after?]
    split at h
    · contradiction
    · next hp =>
      have hp' :
          ¬ ('$' :: keyword).isPrefixOf (c :: (text ++ '$' :: (keyword ++ tail))) = true := by
        intro hm
        obtain ⟨t, ht⟩ := List.isPrefixOf_iff_prefix.1 hm
        rw [← List.cons_append] at ht
        rcases List.append_eq_append_iff.1 ht with ⟨extra, htext, -⟩ | ⟨extra, htext, hextra⟩
        · exact hp (List.isPrefixOf_iff_prefix.2 ⟨extra, htext.symm⟩)
        · -- The occurrence ends in the marker behind the text, or where the text ends.
          cases extra with
          | nil =>
            rw [List.append_nil] at htext
            exact hp (List.isPrefixOf_iff_prefix.2 ⟨[], by rw [List.append_nil, htext]⟩)
          | cons d extra =>
            obtain ⟨rfl, -⟩ := List.cons.inj hextra
            obtain ⟨-, rfl⟩ := List.cons.inj htext
            exact hk (by simp)
      rw [if_neg hp', ih h]

/-- A text that goes on with a word character still does when something is added behind it. -/
theorem startsWithWordChar_append {text : List Char} (h : startsWithWordChar text = true)
    (tail : List Char) : startsWithWordChar (text ++ tail) = true := by
  cases text with
  | nil => contradiction
  | cons c text => exact h

/-- The search goes on behind an occurrence that a word character follows. -/
theorem afterMarker?_of_after? {keyword text rest : List Char}
    (h : after? ('$' :: keyword) text = some rest) :
    afterMarker? keyword text =
      if startsWithWordChar rest then afterMarker? keyword rest else some rest := by
  rw [afterMarker?]
  split
  · next h' => simp [h] at h'
  · next rest' h' =>
    obtain rfl := Option.some.inj (h.symm.trans h')
    rfl

/-- A marker that no word character follows is found at the start of a text. -/
theorem afterMarker?_marker (keyword : List Char) {tail : List Char}
    (htail : startsWithWordChar tail = false) :
    afterMarker? keyword ('$' :: (keyword ++ tail)) = some tail := by
  rw [afterMarker?_of_after? (after?_marker keyword tail), if_neg (by simp [htail])]

/-- Behind a text that has no marker standing alone, a marker that no word character follows is the
first one that stands alone. -/
theorem afterMarker?_append_marker {keyword text tail : List Char} (hk : '$' ∉ keyword)
    (h : afterMarker? keyword text = none) (htail : startsWithWordChar tail = false) :
    afterMarker? keyword (text ++ '$' :: (keyword ++ tail)) = some tail := by
  fun_induction afterMarker? keyword text with
  | case1 text hnone =>
    rw [afterMarker?_of_after? (after?_append_marker hk hnone tail), if_neg (by simp [htail])]
  | case2 text rest hsome _ hword ih =>
    rw [afterMarker?_of_after? (after?_append hsome _), if_pos (startsWithWordChar_append hword _),
      ih h]
  | case3 => contradiction

end RequiredFields.Directive
