import RequiredFields.Proofs.Directive.Group
import RequiredFields.Proofs.Directive.Marker
import RequiredFields.Proofs.Text.Trim

/-!
# Directives in their surroundings

A directive with a balanced group is read in the same way wherever it stands: it may follow any text
that does not carry the directive itself, and any text may follow it (`condition?_surrounded`). The
marker is found by `afterMarker?_append_marker`, since neither a blank nor a parenthesis continues a
word, and the group ends by `closeGroup?_balanced`.
-/

namespace RequiredFields.Directive

open Text

/-- Neither a blank nor an opening parenthesis continues a word. -/
theorem startsWithWordChar_group {w : List Char} (hw : isBlankText w = true) (text : List Char) :
    startsWithWordChar (w ++ '(' :: text) = false := by
  cases w with
  | nil =>
    show isWordChar '(' = false
    decide
  | cons c w => exact isWordChar_of_isBlank (isBlankText_iff.1 hw c (by simp))

/-- A balanced group behind the marker is read as its unescaped body says. -/
theorem readGroup_balanced (description : String) {w body : List Char}
    (hw : isBlankText w = true) (hbody : Balanced body) (tail : List Char) :
    readGroup description (w ++ '(' :: (body ++ ')' :: tail)) =
      readExpression (unescape body) := by
  have htrim : trimStart (w ++ '(' :: (body ++ ')' :: tail)) = '(' :: (body ++ ')' :: tail) := by
    unfold trimStart
    rw [List.dropWhile_append_of_pos (isBlankText_iff.1 hw), List.dropWhile_cons_of_neg (by decide)]
  unfold readGroup
  rw [htrim]
  simp only [closeGroup?_balanced hbody]

/-- What a directive asks for whose marker is found in front of a balanced group. -/
theorem find?_of_afterMarker? {d : Directive} {description : String} {w body tail : List Char}
    (h : afterMarker? d.keyword.toList description.toList =
      some (w ++ '(' :: (body ++ ')' :: tail)))
    (hw : isBlankText w = true) (hbody : Balanced body) :
    d.find? description = some (readExpression (unescape body)) := by
  unfold find?
  rw [h, Option.map_some, readGroup_balanced description hw hbody tail]

/-- The marker of a directive as a list of characters. -/
theorem toList_marker (d : Directive) : d.marker.toList = '$' :: d.keyword.toList := by
  unfold marker
  rw [String.toList_append]
  rfl

/-- A directive at the start of a text is read by its own group. -/
theorem find?_group (d : Directive) {w b : String} (hw : isBlankText w.toList = true)
    (hb : Balanced b.toList) (s : String) :
    d.find? (d.marker ++ w ++ "(" ++ b ++ ")" ++ s) =
      some (readExpression (unescape b.toList)) := by
  have htext : (d.marker ++ w ++ "(" ++ b ++ ")" ++ s).toList =
      '$' :: (d.keyword.toList ++ (w.toList ++ '(' :: (b.toList ++ ')' :: s.toList))) := by
    simp [toList_marker]
  have hmarker := afterMarker?_marker d.keyword.toList
    (startsWithWordChar_group hw (b.toList ++ ')' :: s.toList))
  rw [← htext] at hmarker
  exact find?_of_afterMarker? hmarker hw hb

/-- A directive behind a text that does not carry it is read by its own group. -/
theorem find?_append_group {d : Directive} (hk : '$' ∉ d.keyword.toList) {p w b : String}
    (hp : d.isIn p = false) (hw : isBlankText w.toList = true) (hb : Balanced b.toList)
    (s : String) :
    d.find? (p ++ (d.marker ++ w ++ "(" ++ b ++ ")") ++ s) =
      some (readExpression (unescape b.toList)) := by
  have hnone : afterMarker? d.keyword.toList p.toList = none := by
    simpa [isIn] using hp
  have htext : (p ++ (d.marker ++ w ++ "(" ++ b ++ ")") ++ s).toList = p.toList ++ '$' ::
      (d.keyword.toList ++ (w.toList ++ '(' :: (b.toList ++ ')' :: s.toList))) := by
    simp [toList_marker]
  have hmarker := afterMarker?_append_marker hk hnone
    (startsWithWordChar_group hw (b.toList ++ ')' :: s.toList))
  rw [← htext] at hmarker
  exact find?_of_afterMarker? hmarker hw hb

/-- A directive is read independently of what surrounds it: behind any text `p` that does not carry
the directive, and before any text `s`, its condition is the one that it has alone, which its
balanced body `b` says, and no warning comes from the surroundings. -/
theorem condition?_surrounded (d : Directive) (hk : '$' ∉ d.keyword.toList) (p w b s : String)
    (hp : d.isIn p = false) (hw : isBlankText w.toList = true) (hb : Balanced b.toList) :
    d.condition? (p ++ (d.marker ++ w ++ "(" ++ b ++ ")") ++ s) =
        d.condition? (d.marker ++ w ++ "(" ++ b ++ ")") ∧
      d.find? (p ++ (d.marker ++ w ++ "(" ++ b ++ ")") ++ s) =
        some (readExpression (unescape b.toList)) := by
  have hsurrounded := find?_append_group hk hp hw hb s
  have halone := find?_group d hw hb ""
  rw [String.append_empty] at halone
  refine ⟨?_, hsurrounded⟩
  unfold condition?
  rw [hsurrounded, halone]

/-- A longer word that starts with the marker, an open parenthesis and a backslash stand before the
directive, a parenthesis and a second directive behind it. -/
theorem condition?_surrounded_siblings :
    let d : Directive := {}
    let p := "$mandatoryIfAny(x=1 \\"
    let s := ") $mandatoryIf(b=2"
    '$' ∉ d.keyword.toList ∧ d.isIn p = false ∧ isBlankText "\t ".toList = true ∧
      Balanced "a=(\\))".toList ∧
      d.condition? (p ++ (d.marker ++ "\t " ++ "(" ++ "a=(\\))" ++ ")") ++ s) =
        d.condition? (d.marker ++ "\t " ++ "(" ++ "a=(\\))" ++ ")") ∧
      d.condition? (d.marker ++ "\t " ++ "(" ++ "a=(\\))" ++ ")") =
        some (.comparing "a" .eq ["())"]) := by
  intro d p s
  have hk : '$' ∉ d.keyword.toList := by decide
  have hp : d.isIn p = false := by decide +kernel
  have hw : isBlankText "\t ".toList = true := by decide
  have hb : Balanced "a=(\\))".toList :=
    .plain (by decide) (by decide) (by decide) (.plain (by decide) (by decide) (by decide)
      (.group (.escaped ')' .nil) .nil))
  exact ⟨hk, hp, hw, hb, (condition?_surrounded d hk p _ _ s hp hw hb).1, by decide +kernel⟩

end RequiredFields.Directive
