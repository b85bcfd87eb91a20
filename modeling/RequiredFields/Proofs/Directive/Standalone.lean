import RequiredFields.Proofs.Directive.Surroundings

/-!
# Markers that stand alone

The search for a directive passes over an occurrence of the marker that a word character follows,
and goes on behind it. What it finds stands alone (`standsAlone_of_afterMarker?`). What it can miss
is an occurrence that starts inside one it passes over, so that it finds a marker wherever one
stands alone exactly if no occurrence can hide another in this way (`forall_afterMarker?_iff`). A
keyword without `$` gives such a marker, since every occurrence starts with `$` (`not_hidesItself`).
-/

namespace RequiredFields.Directive

/-- Somewhere in the text the marker occurs and no word character follows it. -/
def StandsAlone (marker text : List Char) : Prop :=
  ∃ before after, text = before ++ marker ++ after ∧ startsWithWordChar after = false

/-- The marker of the directive occurs in the description and no word character follows it. -/
def StandsAloneIn (d : Directive) (description : String) : Prop :=
  StandsAlone d.marker.toList description.toList

/-- An occurrence of the marker can hide another: they share a part, the end of the first and the
start of the second, and a word character follows the first. -/
def HidesItself (marker : List Char) : Prop :=
  ∃ lead shared tail, shared ≠ [] ∧ marker = lead ++ shared ∧ marker = shared ++ tail ∧
    startsWithWordChar tail = true

/-- The occurrence that is found lies in the text, and no other one starts before it. -/
theorem first_of_after? {marker text rest : List Char} (h : after? marker text = some rest) :
    ∃ before, text = before ++ (marker ++ rest) ∧
      ∀ before' rest', text = before' ++ (marker ++ rest') → before.length ≤ before'.length := by
  induction text with
  | nil =>
    simp only [after?] at h
    split at h
    · next hm =>
      obtain rfl := List.isEmpty_iff.1 hm
      obtain rfl := Option.some.inj h
      exact ⟨[], rfl, fun _ _ _ => Nat.zero_le _⟩
    · contradiction
  | cons c text ih =>
    simp only [after?] at h
    split at h
    · next hp =>
      obtain ⟨rest', hrest'⟩ := List.isPrefixOf_iff_prefix.1 hp
      rw [← hrest', List.drop_left] at h
      obtain rfl := Option.some.inj h
      exact ⟨[], hrest'.symm, fun _ _ _ => Nat.zero_le _⟩
    · next hp =>
      obtain ⟨before, hbefore, hfirst⟩ := ih h
      refine ⟨c :: before, by rw [hbefore, List.cons_append], fun before' rest' h' => ?_⟩
      -- Another occurrence at the very start would have been found, so it starts further on, too.
      cases before' with
      | nil => exact absurd (List.isPrefixOf_iff_prefix.2 ⟨rest', h'.symm⟩) hp
      | cons d before' =>
        have hle := hfirst before' rest' (List.cons.inj h').2
        simp only [List.length_cons]
        omega

/-- A text with an occurrence of the marker has a first one. -/
theorem after?_ne_none {marker : List Char} (before rest : List Char) :
    after? marker (before ++ (marker ++ rest)) ≠ none := by
  induction before with
  | nil =>
    have hp : marker.isPrefixOf (marker ++ rest) = true :=
      List.isPrefixOf_iff_prefix.2 (List.prefix_append marker rest)
    rw [List.nil_append]
    cases htext : marker ++ rest with
    | nil =>
      obtain ⟨rfl, rfl⟩ := List.append_eq_nil_iff.1 htext
      simp [after?]
    | cons c text =>
      rw [htext] at hp
      rw [after?, if_pos hp]
      exact Option.some_ne_none _
  | cons c before ih =>
    rw [List.cons_append, after?]
    split
    · exact Option.some_ne_none _
    · exact ih

/-- No word starts with a marker. -/
theorem startsWithWordChar_marker (text : List Char) :
    startsWithWordChar ('$' :: text) = false := by
  show Text.isWordChar '$' = false
  decide

/-- Two texts of which only one starts with a word character differ. -/
theorem ne_of_startsWithWordChar {a b : List Char} (ha : startsWithWordChar a = true)
    (hb : startsWithWordChar b = false) : a ≠ b := by
  rintro rfl
  exact absurd (ha.symm.trans hb) (by decide)

/-- Let one occurrence of a marker start a text and another stand alone further on. If a word
character follows the first, it hides the second or ends before it. -/
theorem hides_or_apart {keyword rest before after : List Char}
    (h : '$' :: keyword ++ rest = before ++ ('$' :: keyword ++ after))
    (hrest : startsWithWordChar rest = true) (hafter : startsWithWordChar after = false) :
    HidesItself ('$' :: keyword) ∨ ∃ between, rest = between ++ ('$' :: keyword ++ after) := by
  have hne := ne_of_startsWithWordChar hrest hafter
  rcases List.append_eq_append_iff.1 h with ⟨between, -, hbetween⟩ | ⟨shared, hshared, htext⟩
  · exact .inr ⟨between, hbetween⟩
  · left
    rcases List.append_eq_append_iff.1 htext with ⟨extra, hextra, hafter'⟩ | ⟨tail, htail, hrest'⟩
    · -- The second occurrence would lie in the first, so the two would be the same.
      have hlen := congrArg List.length hshared
      rw [hextra] at hlen
      simp only [List.length_append, List.length_cons] at hlen
      obtain rfl := List.eq_nil_of_length_eq_zero (l := extra) (by omega)
      exact absurd hafter'.symm hne
    · refine ⟨before, shared, tail, ?_, hshared, htail, ?_⟩
      · rintro rfl
        rw [List.nil_append] at htail
        rw [hrest', ← htail, List.cons_append, startsWithWordChar_marker] at hrest
        contradiction
      · cases tail with
        | nil => exact absurd hrest' hne
        | cons c tail => rwa [hrest'] at hrest

/-- What the search finds stands alone. -/
theorem standsAlone_of_afterMarker? {keyword text rest : List Char}
    (h : afterMarker? keyword text = some rest) : StandsAlone ('$' :: keyword) text := by
  fun_induction afterMarker? keyword text with
  | case1 => contradiction
  | case2 text rest' hsome _ _ ih =>
    -- The occurrence that is passed over lies before the one that stands alone.
    obtain ⟨passed, htext, -⟩ := first_of_after? hsome
    obtain ⟨before, after, hrest, hafter⟩ := ih h
    refine ⟨passed ++ ('$' :: keyword ++ before), after, ?_, hafter⟩
    rw [htext, hrest]
    simp
  | case3 text rest' hsome _ hword =>
    obtain ⟨before, htext, -⟩ := first_of_after? hsome
    exact ⟨before, rest', by rw [htext, List.append_assoc], by simpa using hword⟩

/-- The search finds a marker wherever one stands alone, unless one can hide another. -/
theorem afterMarker?_ne_none {keyword text : List Char} (hm : ¬ HidesItself ('$' :: keyword))
    (h : StandsAlone ('$' :: keyword) text) : afterMarker? keyword text ≠ none := by
  obtain ⟨before, after, htext, hafter⟩ := h
  rw [List.append_assoc] at htext
  fun_induction afterMarker? keyword text generalizing before with
  | case1 text hnone => exact absurd (htext ▸ hnone) (after?_ne_none before after)
  | case2 text rest hsome _ hword ih =>
    -- The occurrence passed over is the first one, so the one that stands alone starts in it or
    -- behind it, and behind it the search goes on.
    obtain ⟨passed, htext', hfirst⟩ := first_of_after? hsome
    have hle := hfirst before after htext
    have hboth := htext'.symm.trans htext
    rcases List.append_eq_append_iff.1 hboth with ⟨between, -, h⟩ | ⟨between, hpassed, h⟩
    · rcases hides_or_apart h hword hafter with hhides | ⟨between, hrest⟩
      · exact absurd hhides hm
      · exact ih between hrest
    · rw [hpassed, List.length_append] at hle
      obtain rfl := List.eq_nil_of_length_eq_zero (l := between) (by omega)
      exact absurd (List.append_cancel_left h).symm (ne_of_startsWithWordChar hword hafter)
  | case3 => exact Option.some_ne_none _

/-- Nothing is found in a text that is shorter than the marker. -/
theorem afterMarker?_of_length_lt {keyword text : List Char}
    (h : text.length < ('$' :: keyword).length) : afterMarker? keyword text = none := by
  rw [afterMarker?]
  split
  · rfl
  · next rest hrest =>
    have := length_of_after? hrest
    omega

/-- Where one occurrence can hide another, the search misses one: in the text that consists of the
two, the second stands alone and is not found. -/
theorem afterMarker?_hidden {keyword : List Char} (hm : HidesItself ('$' :: keyword)) :
    ∃ text, StandsAlone ('$' :: keyword) text ∧ afterMarker? keyword text = none := by
  obtain ⟨lead, shared, tail, hshared, hlead, htail, hword⟩ := hm
  refine ⟨'$' :: (keyword ++ tail), ⟨lead, [], ?_, rfl⟩, ?_⟩
  · rw [← List.cons_append, List.append_nil, hlead, List.append_assoc, ← htail, ← hlead]
  · rw [afterMarker?_of_after? (after?_marker keyword tail), if_pos hword]
    have hpos := List.length_pos_iff.2 hshared
    have hlen := congrArg List.length htail
    rw [List.length_append] at hlen
    exact afterMarker?_of_length_lt (by omega)

/-- The search finds a marker wherever one stands alone, in every text, exactly if no occurrence of
the marker can hide another. -/
theorem forall_afterMarker?_iff (keyword : List Char) :
    (∀ text, (afterMarker? keyword text).isSome = true ↔ StandsAlone ('$' :: keyword) text) ↔
      ¬ HidesItself ('$' :: keyword) := by
  constructor
  · intro hall hm
    obtain ⟨text, halone, hnone⟩ := afterMarker?_hidden hm
    have hsome := (hall text).2 halone
    rw [hnone] at hsome
    contradiction
  · intro hm text
    constructor
    · intro h
      obtain ⟨rest, hrest⟩ := Option.isSome_iff_exists.1 h
      exact standsAlone_of_afterMarker? hrest
    · intro h
      exact Option.isSome_iff_ne_none.2 (afterMarker?_ne_none hm h)

/-- No marker hides itself whose only `$` is the first character. -/
theorem not_hidesItself {keyword : List Char} (hk : '$' ∉ keyword) :
    ¬ HidesItself ('$' :: keyword) := by
  rintro ⟨lead, shared, tail, hshared, hlead, htail, hword⟩
  cases lead with
  | nil =>
    -- The two occurrences would be the same, so nothing of the first would be left.
    rw [List.nil_append] at hlead
    rw [hlead] at htail
    rw [List.self_eq_append_right.1 htail] at hword
    contradiction
  | cons c lead =>
    obtain ⟨d, shared, rfl⟩ := List.exists_cons_of_ne_nil hshared
    obtain ⟨-, rfl⟩ := List.cons.inj hlead
    obtain ⟨rfl, -⟩ := List.cons.inj htail
    exact hk (by simp)

/-- A directive is found in a description only if its marker stands alone in it. -/
theorem standsAloneIn_of_isIn {d : Directive} {description : String}
    (h : d.isIn description = true) : d.StandsAloneIn description := by
  obtain ⟨rest, hrest⟩ := Option.isSome_iff_exists.1 h
  rw [StandsAloneIn, toList_marker]
  exact standsAlone_of_afterMarker? hrest

/-- A directive is found in every description in which its marker stands alone, exactly if no
occurrence of the marker can hide another. -/
theorem forall_isIn_iff (d : Directive) :
    (∀ description, d.isIn description = true ↔ d.StandsAloneIn description) ↔
      ¬ HidesItself d.marker.toList := by
  simp only [StandsAloneIn, toList_marker, isIn]
  rw [← forall_afterMarker?_iff]
  constructor
  · intro h text
    have htext := h (String.ofList text)
    rwa [String.toList_ofList] at htext
  · intro h description
    exact h description.toList

end RequiredFields.Directive
