import RequiredFields.Proofs.Json.Taking

/-!
# Values that nobody asked for

Every text of a JSON value is skipped, whatever its strings and numbers are and however deep it
nests (`takes_skipValue`). One step says what skipping makes of each kind of value; the run goes by
induction on the text, where a part of an array or object is shorter than the whole.
-/

namespace RequiredFields.Json

open Value (withCommas)

/-! ## Strings -/

/-- What stands between quotation marks is skipped up to the mark that ends it. -/
theorem stringBody_of_isBody {text : List Char} (h : IsBody text) (rest : List Char) :
    ∃ cs, stringBody skippedChar (text ++ '"' :: rest) = .ok (cs, rest) := by
  -- Each part is skipped as one character, as in a string that is kept.
  induction h with
  | nil => exact ⟨[], by rw [List.nil_append, stringBody]⟩
  | @plain c text hquote hbackslash hc _ ih =>
    obtain ⟨cs, hcs⟩ := ih
    refine ⟨() :: cs, stringBody_cons [] hquote ?_ hcs⟩
    rw [List.nil_append, skippedChar, if_neg (Nat.not_lt.2 hc)]
    all_goals simp_all
  | @letter l c text hl _ ih =>
    obtain ⟨cs, hcs⟩ := ih
    refine ⟨() :: cs, stringBody_cons [l] (by decide) ?_ hcs⟩
    rw [List.singleton_append, skippedChar, escapeLetter?_eq_some_iff.2 hl]
    · rfl
    · exact ne_of_mem_letters hl
  | @number n digits text hn _ ih =>
    obtain ⟨cs, hcs⟩ := ih
    have hskip : skippedChar ('\\' :: 'u' :: digits ++ (text ++ '"' :: rest)) =
        .ok ((), text ++ '"' :: rest) := by
      rw [List.cons_append, List.cons_append, skippedChar, hexNumber_of_isHex hn]
      rfl
    refine ⟨() :: cs, ?_⟩
    rw [List.cons_append, List.cons_append, List.append_assoc]
    exact stringBody_cons ('u' :: digits) (by decide) hskip hcs

/-- A string is skipped behind its first mark. -/
theorem skipString_of_isBody {text : List Char} (h : IsBody text) (rest : List Char) :
    skipString (text ++ '"' :: rest) = .ok ((), rest) := by
  obtain ⟨cs, hcs⟩ := stringBody_of_isBody h rest
  unfold skipString
  rw [hcs]
  rfl

/-! ## Numbers -/

/-- Where a number ends no digit follows. -/
theorem EndsNumber.takeWhile_isDigit {rest : List Char} (h : EndsNumber rest) :
    rest.takeWhile Char.isDigit = [] := by
  cases rest with
  | nil => rfl
  | cons c text => exact List.takeWhile_cons_of_neg (by simp [(h c text rfl).1])

/-- The exponent of a number is skipped, if there is one. -/
theorem skipExponent_scaleText (n : Numeral) {rest : List Char} (hrest : EndsNumber rest) :
    skipExponent (n.scaleText ++ rest) = .ok ((), rest) := by
  unfold Numeral.scaleText
  cases n.scale with
  | none =>
    cases rest with
    | nil => rfl
    | cons c text =>
      obtain ⟨-, -, he, hE⟩ := hrest c text rfl
      simp [skipExponent, he, hE]
  | some s =>
    have hsign : takeSign (s.sign.text ++ (s.digits ++ rest)) =
        (s.sign.isMinus, s.digits ++ rest) :=
      takeSign_append s.sign (ne_sign_of_isDigit s.digits_ne s.isDigit)
    have hend := hrest.takeWhile_isDigit
    simp only [Option.elim_some, Scale.text, List.cons_append, List.append_assoc, skipExponent,
      if_pos s.mark_eq, hsign, takeWhile_isDigit_append s.isDigit hend,
      dropWhile_isDigit_append s.isDigit hend, List.isEmpty_iff, s.digits_ne, if_false]

/-- No digit starts what follows the digits of a number. -/
theorem takeWhile_isDigit_append_eq_nil {text rest : List Char}
    (h : text.takeWhile Char.isDigit = []) (hrest : EndsNumber rest) :
    (text ++ rest).takeWhile Char.isDigit = [] := by
  cases text with
  | nil => exact hrest.takeWhile_isDigit
  | cons c text =>
    rw [List.takeWhile_cons] at h
    split at h
    · contradiction
    · rw [List.cons_append, List.takeWhile_cons, if_neg ‹_›]

/-- No point starts an exponent and what follows the number. -/
theorem scaleText_append_ne_point (n : Numeral) {rest : List Char} (hrest : EndsNumber rest)
    (text : List Char) : n.scaleText ++ rest ≠ '.' :: text := by
  intro heq
  unfold Numeral.scaleText at heq
  cases hscale : n.scale with
  | none =>
    rw [hscale] at heq
    exact (hrest '.' text heq).2.1 rfl
  | some s =>
    rw [hscale] at heq
    exact s.text_append_ne_point rest text heq

/-- What follows the digits before the point is skipped. -/
theorem skipNumber_unsigned {n : Numeral} (hwhole : n.whole ≠ [])
    (hzero : n.whole.head? = some '0' → n.whole.length = 1) (hfraction : n.fraction ≠ some [])
    {rest : List Char} (hrest : EndsNumber rest) :
    skipNumber (n.whole ++ (n.fractionText ++ (n.scaleText ++ rest))) = .ok ((), rest) := by
  -- The digits in front end where the point, the exponent or the rest starts.
  have hend : (n.fractionText ++ (n.scaleText ++ rest)).takeWhile Char.isDigit = [] := by
    rw [← List.append_assoc]
    exact takeWhile_isDigit_append_eq_nil n.takeWhile_fractionText hrest
  have hdigits :
      (n.whole.isEmpty || (n.whole.head? == some '0' && n.whole.length != 1)) = false := by
    simpa [hwhole] using hzero
  unfold skipNumber
  split
  next minus text heq =>
  split at heq
  · next hminus => exact absurd hminus (ne_sign_of_isDigit hwhole n.whole_isDigit _).1
  · obtain ⟨-, rfl⟩ := Prod.mk.inj heq
    simp only [takeWhile_isDigit_append n.whole_isDigit hend, hdigits,
      dropWhile_isDigit_append n.whole_isDigit hend, Bool.false_eq_true, if_false]
    have hplaces := List.all_eq_true.1 n.fraction_all_isDigit
    cases hf : n.fraction with
    | none =>
      have hnil : n.fractionText = [] := by
        rw [Numeral.fractionText, hf]
      rw [hnil, List.nil_append]
      split
      · next heq => exact absurd heq (scaleText_append_ne_point n hrest _)
      · exact skipExponent_scaleText n hrest
    | some digits =>
      have hcons : n.fractionText = '.' :: digits := by
        rw [Numeral.fractionText, hf]
      rw [hf, Option.getD_some] at hplaces
      have hne : digits ≠ [] := fun h => hfraction (h ▸ hf)
      have hend' := takeWhile_isDigit_append_eq_nil n.takeWhile_scaleText hrest
      simp only [hcons, List.cons_append, takeWhile_isDigit_append hplaces hend',
        dropWhile_isDigit_append hplaces hend', List.isEmpty_iff, hne, if_false]
      exact skipExponent_scaleText n hrest

/-- A minus in front of a number is skipped. -/
theorem skipNumber_minus {text : List Char} (h : ∀ rest, text ≠ '-' :: rest) :
    skipNumber ('-' :: text) = skipNumber text := by
  unfold skipNumber
  simp only

/-- A number is skipped, whatever its size. -/
theorem skipNumber_of_isNumber {text : List Char} (h : IsNumber text) {rest : List Char}
    (hrest : EndsNumber rest) : skipNumber (text ++ rest) = .ok ((), rest) := by
  obtain ⟨n, rfl, hsign, hwhole, hzero, hfraction⟩ := h
  have hunsigned := skipNumber_unsigned hwhole hzero hfraction hrest
  have htext : n.text ++ rest =
      n.sign.text ++ (n.whole ++ (n.fractionText ++ (n.scaleText ++ rest))) := by
    simp [Numeral.text]
  rw [htext]
  cases hs : n.sign with
  | plus => exact absurd hs hsign
  | none => exact hunsigned
  | minus =>
    rw [← hunsigned]
    exact skipNumber_minus fun _ => (ne_sign_of_isDigit hwhole n.whole_isDigit _).1

/-- A number starts with a minus or with a digit. -/
theorem IsNumber.exists_eq_cons {text : List Char} (h : IsNumber text) :
    ∃ c tail, text = c :: tail ∧ (c = '-' ∨ c.isDigit = true) := by
  obtain ⟨n, rfl, hsign, hwhole, -, -⟩ := h
  obtain ⟨d, digits, hdigits⟩ := List.exists_cons_of_ne_nil hwhole
  have hd : d.isDigit = true := n.whole_isDigit d (hdigits ▸ List.mem_cons_self)
  cases hs : n.sign with
  | plus => exact absurd hs hsign
  | none => exact ⟨d, _, by rw [Numeral.text, hs, hdigits]; rfl, .inr hd⟩
  | minus => exact ⟨'-', _, by rw [Numeral.text, hs]; rfl, .inl rfl⟩

/-! ## Values -/

/-- Skipping looks behind blanks. -/
theorem skipsBlanks_skipNested (fuel : Nat) : SkipsBlanks (skipNested fuel) := by
  intro text
  cases fuel with
  | zero => rfl
  | succ fuel => simp only [skipNested, skipBlank_skipBlank]

/-- A word is skipped. -/
theorem takes_skipNested_word (fuel : Nat) {text : List Char}
    (h : text ∈ [['n', 'u', 'l', 'l'], ['t', 'r', 'u', 'e'], ['f', 'a', 'l', 's', 'e']]) :
    Takes (skipNested (fuel + 1)) text () := by
  simp only [List.mem_cons, List.not_mem_nil, or_false] at h
  rcases h with rfl | rfl | rfl
  all_goals exact takes_of_eq ⟨rfl, by decide, by decide⟩ fun rest _ => rfl

/-- The characters that a number may start with may start an element. -/
theorem startsElement_of_number {c : Char} (hc : c = '-' ∨ c.isDigit = true) :
    StartsElement c := by
  refine ⟨?_, ?_, ?_⟩
  · by_contra hblank
    simp only [isBlank, Bool.not_eq_false, Bool.or_eq_true, beq_iff_eq] at hblank
    rcases hblank with ((rfl | rfl) | rfl) | rfl <;> revert hc <;> decide
  all_goals
    rintro rfl
    revert hc
    decide

/-- A number is skipped. -/
theorem takes_skipNested_number (fuel : Nat) {text : List Char} (h : IsNumber text) :
    Takes (skipNested (fuel + 1)) text () := by
  obtain ⟨c, tail, rfl, hc⟩ := h.exists_eq_cons
  have hstart := startsElement_of_number hc
  refine takes_of_eq hstart fun rest hrest => ?_
  have hskip : skipBlank (c :: (tail ++ rest)) = c :: (tail ++ rest) :=
    List.dropWhile_cons_of_neg (by simp [hstart.1])
  have hnumber := skipNumber_of_isNumber h hrest
  rw [skipNested, hskip]
  -- The marks of the other kinds of values are no digits.
  split
  · contradiction
  all_goals
    next heq =>
    obtain ⟨rfl, rfl⟩ := List.cons.inj heq
    first
    | exact absurd hc (by decide)
    | rw [if_pos hc]
      exact hnumber

/-- A string is skipped. -/
theorem takes_skipNested_string (fuel : Nat) {text : List Char} (h : IsString text) :
    Takes (skipNested (fuel + 1)) text () := by
  obtain ⟨body, hbody, rfl⟩ := h
  refine takes_of_eq ⟨rfl, by decide, by decide⟩ fun rest _ => ?_
  rw [List.append_assoc]
  exact skipString_of_isBody hbody rest

/-- An array is skipped if its elements are. -/
theorem takes_skipNested_array {fuel : Nat} {parts : List (List Char)} {text : List Char}
    (h : ∀ part ∈ parts, Takes (skipNested fuel) part ())
    (htext : IsEnclosed '[' ']' parts text) : Takes (skipNested (fuel + 1)) text () := by
  obtain ⟨before, after, hbefore, hafter, rfl⟩ := htext
  have hparts : List.Forall₂ (Takes (skipNested fuel)) parts (parts.map fun _ => ()) := by
    rw [List.forall₂_map_right_iff, List.forall₂_same]
    exact h
  refine takes_of_eq ⟨rfl, by decide, by decide⟩ fun rest _ => ?_
  show (readElements (skipNested fuel) true _).map _ = _
  rw [readElements_enclosed (skipsBlanks_skipNested fuel) hparts hbefore hafter]
  rfl

/-- An object is skipped if the values of its members are. -/
theorem takes_skipNested_object {fuel : Nat} {members : List (List Char × List Char)}
    {text : List Char} (hnames : ∀ m ∈ members, Padded IsString m.1)
    (hvalues : ∀ m ∈ members, Takes (skipNested fuel) m.2 ())
    (htext : IsEnclosed '\x7b' '\x7d' (members.map memberText) text) :
    Takes (skipNested (fuel + 1)) text () := by
  obtain ⟨before, after, hbefore, hafter, rfl⟩ := htext
  -- Nothing is kept of a member, so the state stays the same from member to member.
  have hmembers : TakesMembers skipString (fun _ _ text => do skipNested fuel (← colon text)) ()
      (members.map memberText) () := by
    induction members with
    | nil => exact .nil ()
    | cons m members ih =>
      obtain ⟨hname, hnames⟩ := List.forall_mem_cons.1 hnames
      obtain ⟨hvalue, hvalues⟩ := List.forall_mem_cons.1 hvalues
      refine .cons ?_ (ih hnames hvalues)
      obtain ⟨gap, inner, gap', hgap, hgap', ⟨body, hbody, rfl⟩, hm⟩ := hname
      rw [← Prod.mk.eta (p := m), hm]
      refine takesMember_of_takes hgap hgap' (skipString_of_isBody hbody) hvalue ?_
      rintro text behind rest hcolon hread
      simp only [hcolon, bind, Except.bind, hread]
  refine takes_of_eq ⟨rfl, by decide, by decide⟩ fun rest _ => ?_
  exact hmembers.readMembers_enclosed hbefore hafter rest

/-- A part between commas is no longer than the whole. -/
theorem length_le_length_withCommas {part : List Char} {parts : List (List Char)}
    (h : part ∈ parts) : part.length ≤ (withCommas parts).length := by
  cases parts with
  | nil => contradiction
  | cons first parts =>
    rw [withCommas_cons, List.length_append]
    rcases List.mem_cons.1 h with rfl | h
    · omega
    · have hsub : (',' :: part).Sublist (parts.flatMap (',' :: ·)) :=
        List.sublist_flatten_of_mem (List.mem_map_of_mem h)
      have hle := hsub.length_le
      rw [List.length_cons] at hle
      omega

/-- A part between brackets is shorter than the whole. -/
theorem IsEnclosed.length_lt {first last : Char} {parts : List (List Char)} {text : List Char}
    (h : IsEnclosed first last parts text) {part : List Char} (hpart : part ∈ parts) :
    part.length < text.length := by
  obtain ⟨before, after, -, -, rfl⟩ := h
  have hle := length_le_length_withCommas hpart
  simp only [List.length_cons, List.length_append]
  omega

/-- A text of a value is skipped with more fuel than it is long. -/
theorem takes_skipNested {text : List Char} (h : IsValue text) {fuel : Nat}
    (hfuel : text.length ≤ fuel) : Takes (skipNested (fuel + 1)) text () := by
  -- The induction is on the text: a part of an array or object has its own, smaller fuel.
  induction h generalizing fuel with
  | word h => exact takes_skipNested_word fuel h
  | number h => exact takes_skipNested_number fuel h
  | string h => exact takes_skipNested_string fuel h
  | array _ htext ih =>
    refine takes_skipNested_array (fun part hpart => ?_) htext
    have hlt := htext.length_lt hpart
    cases fuel with
    | zero => omega
    | succ fuel => exact ih part hpart (by omega)
  | object hnames _ htext ih =>
    refine takes_skipNested_object hnames (fun m hm => ?_) htext
    have hlt := htext.length_lt (List.mem_map_of_mem hm)
    simp only [memberText, List.length_append, List.length_cons] at hlt
    cases fuel with
    | zero => omega
    | succ fuel => exact ih m hm (by omega)
  | padded hbefore hafter _ ih =>
    simp only [List.length_append] at hfuel
    exact (ih (by omega)).padded (skipsBlanks_skipNested _) hbefore hafter

/-- Every text of a value is skipped. -/
theorem takes_skipValue {text : List Char} (h : IsValue text) : Takes skipValue text () where
  starts := (takes_skipNested h (Nat.le_refl _)).starts
  reads rest hrest := by
    have hfuel : text.length ≤ (text ++ rest).length := by
      rw [List.length_append]
      omega
    exact (takes_skipNested h hfuel).reads rest hrest

end RequiredFields.Json
