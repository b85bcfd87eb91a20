import RequiredFields.Proofs.Directive.Expression
import RequiredFields.Proofs.Directive.Group
import RequiredFields.Proofs.Text.Slices

/-!
# Reading directives by offsets

A description can be read as octets: the marker is searched for among them, and what stands behind
it, in its group and on both sides of its operator is cut out at offsets. Cutting fails inside a
character and behind the end. It never does, and what is read is what the reader of characters reads
(`findIn_ofText`), because every offset is the length of some of the characters: where the marker
ends (`locateFrom_ofChars`), where the group closes (`closingOffset?_indices`), and where the
operator stands and ends (`operatorOffset?_indices`). An operator of two characters is told from one
of one character by the next octet, which is an equals sign exactly if the next character is one
(`equalsFollows_iff`).
-/

namespace RequiredFields.Directive

open Octets

/-! ## The marker -/

/-- The octet of the `$` that starts a marker. -/
def markerOctet : UInt8 := 0x24

/-- The offset behind the first marker that stands alone, from an offset on. -/
def locateFrom (keyword description : Octets) (start : Nat) : Except Fault (Option Nat) :=
  match hslice : sliceFrom description start with
  | .error e => .error e
  | .ok rest =>
    have := le_length_of_sliceFrom hslice
    match offsetOf? (markerOctet :: keyword) rest with
    | none => .ok none
    | some pos =>
      let stop := start + pos + (keyword.length + 1)
      match sliceFrom description stop with
      | .error e => .error e
      | .ok behind =>
        match firstChar behind with
        | .error e => .error e
        | .ok none => .ok (some stop)
        | .ok (some c) =>
          if Text.isWordChar c then locateFrom keyword description stop else .ok (some stop)
termination_by description.length + 1 - start
decreasing_by omega

/-- The octets of a marker. -/
theorem ofChars_marker (keyword : List Char) :
    ofChars ('$' :: keyword) = markerOctet :: ofChars keyword := rfl

/-- The first occurrence of a marker among the octets is the first among the characters. -/
theorem offsetOf?_marker (keyword text : List Char) :
    (after? ('$' :: keyword) text = none ∧
      offsetOf? (markerOctet :: ofChars keyword) (ofChars text) = none) ∨
    ∃ front rest, text = front ++ ('$' :: keyword ++ rest) ∧
      after? ('$' :: keyword) text = some rest ∧
      offsetOf? (markerOctet :: ofChars keyword) (ofChars text) = some (ofChars front).length := by
  induction text with
  | nil => exact .inl ⟨rfl, rfl⟩
  | cons c text ih =>
    obtain ⟨b, tail, henc, hc⟩ := exists_encodes c
    have hoctets : ofChars (c :: text) = b :: (tail ++ ofChars text) := by
      rw [ofChars_cons, henc, List.cons_append]
    have hprefix := isPrefixOf_ofChars ('$' :: keyword) (c :: text)
    rw [ofChars_marker, hoctets] at hprefix
    rw [hoctets, offsetOf?, hprefix, after?]
    split
    · next hp =>
      obtain ⟨rest, hrest⟩ := List.isPrefixOf_iff_prefix.1 hp
      refine .inr ⟨[], rest, hrest.symm, ?_, rfl⟩
      rw [← hrest, List.drop_left]
    · -- No marker starts with an octet that continues a character.
      rw [offsetOf?_tail (by decide) _ hc.isTail_tail]
      rcases ih with ⟨hafter, hoffset⟩ | ⟨front, rest, rfl, hafter, hoffset⟩
      · exact .inl ⟨hafter, by rw [hoffset]; rfl⟩
      · refine .inr ⟨c :: front, rest, rfl, hafter, ?_⟩
        rw [hoffset, ofChars_cons, henc, List.length_append, List.length_cons]
        simp only [Option.map_some]
        congr 1
        omega

/-- A marker among the characters is found among the octets, behind those of the characters in front
of it. -/
theorem offsetOf?_of_after? {keyword text rest : List Char}
    (h : after? ('$' :: keyword) text = some rest) :
    ∃ front, text = front ++ ('$' :: keyword ++ rest) ∧
      offsetOf? (markerOctet :: ofChars keyword) (ofChars text) = some (ofChars front).length := by
  obtain ⟨hnone, -⟩ | ⟨front, rest', htext, hafter, hoffset⟩ := offsetOf?_marker keyword text
  · rw [h] at hnone
    contradiction
  · obtain rfl := Option.some.inj (h.symm.trans hafter)
    exact ⟨front, htext, hoffset⟩

/-- Without a marker among the characters, none is found among the octets. -/
theorem offsetOf?_eq_none {keyword text : List Char} (h : after? ('$' :: keyword) text = none) :
    offsetOf? (markerOctet :: ofChars keyword) (ofChars text) = none := by
  obtain ⟨-, hoffset⟩ | ⟨front, rest, -, hafter, -⟩ := offsetOf?_marker keyword text
  · exact hoffset
  · rw [h] at hafter
    contradiction

/-- Without a marker among the other characters, none is found behind some of them. -/
theorem locateFrom_none {keyword back : List Char} (front : List Char)
    (h : offsetOf? (markerOctet :: ofChars keyword) (ofChars back) = none) :
    locateFrom (ofChars keyword) (ofChars (front ++ back)) (ofChars front).length = .ok none := by
  rw [locateFrom]
  split
  · next heq =>
    rw [sliceFrom_length] at heq
    contradiction
  · next rest heq =>
    rw [sliceFrom_length] at heq
    obtain rfl := Except.ok.inj heq
    rw [h]

/-- The search goes on behind a marker that a word character follows, and ends behind another. -/
theorem locateFrom_some {keyword : List Char} (front middle rest : List Char)
    (h : offsetOf? (markerOctet :: ofChars keyword)
      (ofChars (middle ++ ('$' :: keyword ++ rest))) = some (ofChars middle).length) :
    let text := front ++ (middle ++ ('$' :: keyword ++ rest))
    let stop := (ofChars (front ++ (middle ++ '$' :: keyword))).length
    locateFrom (ofChars keyword) (ofChars text) (ofChars front).length =
      if startsWithWordChar rest then locateFrom (ofChars keyword) (ofChars text) stop
      else .ok (some stop) := by
  intro text stop
  have hstop : (ofChars front).length + (ofChars middle).length + ((ofChars keyword).length + 1) =
      stop := by
    simp only [stop, ofChars_append, ofChars_marker, List.length_append, List.length_cons]
    omega
  have htext : text = (front ++ (middle ++ '$' :: keyword)) ++ rest := by simp [text]
  have hbehind : sliceFrom (ofChars text) stop = .ok (ofChars rest) := by
    rw [htext]
    exact sliceFrom_length _ rest
  -- Both cuts are made between characters, so neither of them fails.
  rw [locateFrom]
  split
  · next heq =>
    rw [sliceFrom_length] at heq
    contradiction
  · next octets heq =>
    rw [sliceFrom_length] at heq
    obtain rfl := Except.ok.inj heq
    simp only [h, hstop, hbehind, firstChar_ofChars]
    cases rest with
    | nil => rfl
    | cons c rest => rfl

/-- The marker that is found among the octets, behind some of the characters, is the one that is
found among the others. -/
theorem locateFrom_ofChars (keyword : List Char) (front back : List Char) :
    (afterMarker? keyword back = none ∧
      locateFrom (ofChars keyword) (ofChars (front ++ back)) (ofChars front).length = .ok none) ∨
    ∃ middle rest, back = middle ++ rest ∧ afterMarker? keyword back = some rest ∧
      locateFrom (ofChars keyword) (ofChars (front ++ back)) (ofChars front).length =
        .ok (some (ofChars (front ++ middle)).length) := by
  -- The cases are those of the search among characters; what it passes over joins the front.
  fun_induction afterMarker? keyword back generalizing front with
  | case1 text hnone => exact .inl ⟨rfl, locateFrom_none front (offsetOf?_eq_none hnone)⟩
  | case2 text rest hsome hlt hword ih =>
    obtain ⟨middle, rfl, hoffset⟩ := offsetOf?_of_after? hsome
    have hstep := locateFrom_some front middle rest hoffset
    simp only [hword, if_true] at hstep
    have htext : front ++ (middle ++ ('$' :: keyword ++ rest)) =
        (front ++ (middle ++ '$' :: keyword)) ++ rest := by simp
    rw [hstep, htext]
    obtain ⟨hnone, hmore⟩ | ⟨middle', rest', rfl, hsome', hmore⟩ :=
      ih (front ++ (middle ++ '$' :: keyword))
    · exact .inl ⟨hnone, hmore⟩
    · refine .inr ⟨middle ++ '$' :: keyword ++ middle', rest', by simp, hsome', ?_⟩
      rw [hmore]
      simp
  | case3 text rest hsome hlt hword =>
    obtain ⟨middle, rfl, hoffset⟩ := offsetOf?_of_after? hsome
    have hstep := locateFrom_some front middle rest hoffset
    simp only [hword] at hstep
    exact .inr ⟨middle ++ '$' :: keyword, rest, by simp, rfl, hstep⟩

/-! ## The group -/

/-- The offset of the parenthesis that closes a group, read with the number of open parentheses and
a mark for a character that a backslash protects. -/
def closingOffset? (depth : Nat) (escaped : Bool) : List (Nat × Char) → Option Nat
  | [] => none
  | (i, c) :: chars =>
    if escaped then closingOffset? depth false chars
    else if c = '\\' then closingOffset? depth true chars
    else if c = '(' then closingOffset? (depth + 1) false chars
    else if c = ')' then
      if depth = 1 then some i else closingOffset? (depth - 1) false chars
    else closingOffset? depth false chars

/-- The body of a group, up to the parenthesis that closes it. -/
def bodyOf? (group : Octets) : Except Fault (Option Octets) := do
  match closingOffset? 1 false (← charIndices 0 group) with
  | none => .ok none
  | some i =>
    let body ← sliceTo group i
    .ok (some body)

/-- The group is closed behind the octets of its body. -/
theorem closingOffset?_indices (inner i : Nat) (text : List Char) :
    closingOffset? (inner + 1) false (indices i text) =
      (closeGroup? inner text).map fun (body, _) => i + (ofChars body).length := by
  -- The cases are those of the reader of groups, which has one group less open.
  fun_induction closeGroup? inner text generalizing i with
  | case1 | case2 => rfl
  | case3 _ _ _ ih | case4 _ _ ih | case6 _ _ ih =>
    simp [indices, closingOffset?, ih, Function.comp_def, Nat.add_assoc]
  | case5 text => simp [indices, closingOffset?]
  | case7 inner c text hlast hesc hopen hclose ih =>
    have hplain : c ≠ '\\' := ne_backslash hlast hesc
    have hopen' : c ≠ '(' := hopen
    have hclose' : c ≠ ')' := hclose
    simp [indices, closingOffset?, hplain, hopen', hclose', ih, Function.comp_def, Nat.add_assoc]

/-- The body that is cut out is the one that the reader of groups finds. -/
theorem bodyOf?_ofChars (text : List Char) :
    bodyOf? (ofChars text) = .ok ((closeGroup? 0 text).map fun (body, _) => ofChars body) := by
  unfold bodyOf?
  rw [charIndices_ofChars]
  simp only [bind, Except.bind, closingOffset?_indices]
  cases hread : closeGroup? 0 text with
  | none => rfl
  | some found =>
    obtain ⟨body, rest⟩ := found
    obtain ⟨rfl, -⟩ := closeGroup?_eq_some.1 hread
    simp only [Option.map_some, Nat.zero_add, sliceTo_length]

/-! ## The expression -/

/-- Whether the octet behind an offset is an equals sign. -/
def equalsFollows (expression : Octets) (i : Nat) : Bool :=
  expression[i + 1]? == some 0x3D

/-- The leftmost operator and its offset. An operator of two characters is told by the octet behind
its first. -/
def operatorOffset? (expression : Octets) : List (Nat × Char) → Option (Nat × Operator)
  | [] => none
  | (i, c) :: chars =>
    if c = '!' ∧ equalsFollows expression i then some (i, .ne)
    else if c = '<' ∧ equalsFollows expression i then some (i, .le)
    else if c = '>' ∧ equalsFollows expression i then some (i, .ge)
    else if c = '=' then some (i, .eq)
    else if c = '<' then some (i, .lt)
    else if c = '>' then some (i, .gt)
    else operatorOffset? expression chars

/-- The condition that an expression writes. -/
def readExpressionAt (octets : Octets) : Except Fault Finding := do
  let expression ← onChars Text.trim octets
  match operatorOffset? expression (← charIndices 0 expression) with
  | none =>
    if expression.isEmpty then .ok ⟨.always, none⟩
    else
      let text ← toText expression
      .ok ⟨.always, some (.noOperator text)⟩
  | some (i, op) =>
    let target ← onChars Text.trim (← sliceTo expression i)
    if target.isEmpty then
      let text ← toText expression
      .ok ⟨.always, some (.noTarget text)⟩
    else
      let values ← onChars Text.trim (← sliceFrom expression (i + (ofText op.symbol).length))
      let target ← toText target
      let values ← chars values
      .ok ⟨.comparing target op ((splitValues values).map String.ofList), none⟩

/-- The characters that an operator of two characters starts with. -/
def StartsLongOperator (c : Char) : Prop :=
  c = '!' ∨ c = '<' ∨ c = '>'

/-- Behind a character that an operator of two characters starts with, the next octet is an equals
sign exactly if the next character is one. -/
theorem equalsFollows_iff {c : Char} (hc : StartsLongOperator c) (front back : List Char) :
    equalsFollows (ofChars (front ++ c :: back)) (ofChars front).length = true ↔
      ∃ rest, back = '=' :: rest := by
  have hone : (String.utf8EncodeChar c).length = 1 := by
    rcases hc with rfl | rfl | rfl <;> rfl
  have hget : (ofChars (front ++ c :: back))[(ofChars front).length + 1]? = (ofChars back)[0]? := by
    rw [ofChars_append, List.getElem?_append_right (Nat.le_add_right ..), Nat.add_sub_cancel_left,
      ofChars_cons, List.getElem?_append_right (by rw [hone]), hone]
  unfold equalsFollows
  rw [hget, beq_iff_eq]
  constructor
  · intro h
    cases hback : ofChars back with
    | nil => simp [hback] at h
    | cons b rest =>
      rw [hback] at h
      obtain rfl := Option.some.inj h
      -- The octet of an equals sign starts no other character.
      have hequals : String.utf8EncodeChar '=' ++ rest = ofChars back := hback.symm
      exact exists_eq_cons_of_ofChars hequals
  · rintro ⟨rest, rfl⟩
    rfl

/-- Where no equals sign follows, the next octet is none. -/
theorem equalsFollows_eq_false {c : Char} (hc : StartsLongOperator c) (front : List Char)
    {back : List Char} (hback : ∀ rest, back ≠ '=' :: rest) :
    equalsFollows (ofChars (front ++ c :: back)) (ofChars front).length = false := by
  rw [← Bool.not_eq_true, equalsFollows_iff hc]
  rintro ⟨rest, hrest⟩
  exact hback rest hrest

/-- The operator that is found among the octets, behind some of the characters, is the one that is
found among the others. -/
theorem operatorOffset?_indices (front back : List Char) :
    operatorOffset? (ofChars (front ++ back)) (indices (ofChars front).length back) =
      (splitAtOperator? back).map fun (left, op, _) => ((ofChars (front ++ left)).length, op) := by
  -- The cases are those of the reader of expressions, in its order.
  fun_induction splitAtOperator? back generalizing front with
  | case1 => rfl
  | case2 text =>
    have hequals := (equalsFollows_iff (.inl rfl) front ('=' :: text)).2 ⟨text, rfl⟩
    simp [indices, operatorOffset?, hequals, -ofChars_append, -ofChars_cons]
  | case3 text =>
    have hequals := (equalsFollows_iff (.inr (.inl rfl)) front ('=' :: text)).2 ⟨text, rfl⟩
    simp [indices, operatorOffset?, hequals, -ofChars_append, -ofChars_cons]
  | case4 text =>
    have hequals := (equalsFollows_iff (.inr (.inr rfl)) front ('=' :: text)).2 ⟨text, rfl⟩
    simp [indices, operatorOffset?, hequals, -ofChars_append, -ofChars_cons]
  | case5 text => simp [indices, operatorOffset?]
  | case6 text hle =>
    have hequals := equalsFollows_eq_false (.inr (.inl rfl)) front hle
    simp [indices, operatorOffset?, hequals, -ofChars_append, -ofChars_cons]
  | case7 text hge =>
    have hequals := equalsFollows_eq_false (.inr (.inr rfl)) front hge
    simp [indices, operatorOffset?, hequals, -ofChars_append, -ofChars_cons]
  | case8 c text hne hle hge heq hlt hgt ih =>
    have hmark : ¬ (c = '!' ∧
        equalsFollows (ofChars (front ++ c :: text)) (ofChars front).length) := by
      rintro ⟨rfl, hequals⟩
      obtain ⟨rest, rfl⟩ := (equalsFollows_iff (.inl rfl) front text).1 hequals
      exact hne rest rfl rfl
    have heq' : c ≠ '=' := heq
    have hlt' : c ≠ '<' := hlt
    have hgt' : c ≠ '>' := hgt
    have hmore := ih (front ++ [c])
    rw [List.append_assoc, List.singleton_append] at hmore
    rw [indices, operatorOffset?, if_neg hmark]
    simp only [heq', hlt', hgt', false_and, if_false, Option.map_map]
    simpa [Function.comp_def] using hmore

/-- The condition that is read from the octets of an expression is the one that its characters
write. -/
theorem readExpressionAt_ofChars (text : List Char) :
    readExpressionAt (ofChars text) = .ok (readExpression text) := by
  have hoperator : operatorOffset? (ofChars (Text.trim text)) (indices 0 (Text.trim text)) =
      (splitAtOperator? (Text.trim text)).map fun (left, op, _) => ((ofChars left).length, op) :=
    operatorOffset?_indices [] (Text.trim text)
  unfold readExpressionAt readExpression
  simp only [onChars_ofChars, charIndices_ofChars, bind, Except.bind, hoperator]
  cases hsplit : splitAtOperator? (Text.trim text) with
  | none =>
    simp only [Option.map_none, isEmpty_ofChars, toText_ofChars]
    split <;> rfl
  | some found =>
    obtain ⟨left, op, right⟩ := found
    -- The text is cut where the operator starts and where it ends.
    have htext := (isSplit_of_splitAtOperator? hsplit).text_eq
    have hleft := sliceTo_length left (op.symbol.toList ++ right)
    have hright := sliceFrom_length (left ++ op.symbol.toList) right
    have hstop : (ofChars (left ++ op.symbol.toList)).length =
        (ofChars left).length + (ofText op.symbol).length := by
      rw [ofChars_append, List.length_append, ofText_eq]
    rw [hstop, List.append_assoc] at hright
    rw [← htext] at hleft hright
    simp only [Option.map_some, hleft, hright, onChars_ofChars, isEmpty_ofChars, toText_ofChars,
      chars_ofChars]
    split <;> rfl

/-! ## The directive -/

/-- The octet of an opening parenthesis. -/
def groupOctet : UInt8 := 0x28

/-- What the directive asks for whose marker ends right before `rest`. -/
def readGroupAt (description rest : Octets) : Except Fault Finding := do
  let rest ← onChars Text.trimStart rest
  if rest.head? = some groupOctet then
    match ← bodyOf? (← sliceFrom rest 1) with
    | some body =>
      let body ← onChars unescape body
      readExpressionAt body
    | none =>
      let description ← toText description
      .ok ⟨.always, some (.unbalanced description)⟩
  else .ok ⟨.always, none⟩

/-- What the first directive in a description asks for, with its parts cut out at offsets. -/
def findIn (keyword description : Octets) : Except Fault (Option Finding) := do
  match ← locateFrom keyword description 0 with
  | none => .ok none
  | some stop =>
    let finding ← readGroupAt description (← sliceFrom description stop)
    .ok (some finding)

/-- A text whose first octet is that of a parenthesis starts with a parenthesis. -/
theorem exists_eq_cons_of_head? {text : List Char}
    (h : (ofChars text).head? = some groupOctet) : ∃ back, text = '(' :: back := by
  obtain ⟨rest, hrest⟩ := List.head?_eq_some_iff.1 h
  have hgroup : String.utf8EncodeChar '(' ++ rest = ofChars text := hrest.symm
  exact exists_eq_cons_of_ofChars hgroup

/-- What is read from the octets behind the marker is what is read from the characters there. -/
theorem readGroupAt_ofChars (description : String) (rest : List Char) :
    readGroupAt (ofText description) (ofChars rest) = .ok (readGroup description rest) := by
  have hdescription : toText (ofText description) = .ok description := by
    rw [ofText_eq, toText_ofChars, String.ofList_toList]
  unfold readGroupAt readGroup
  simp only [onChars_ofChars, bind, Except.bind]
  split
  · next hhead =>
    obtain ⟨group, hgroup⟩ := exists_eq_cons_of_head? hhead
    have hslice : sliceFrom (ofChars ('(' :: group)) 1 = .ok (ofChars group) :=
      sliceFrom_length ['('] group
    simp only [hgroup, hslice, bodyOf?_ofChars]
    cases closeGroup? 0 group with
    | none => simp only [Option.map_none, hdescription]
    | some found =>
      simp only [Option.map_some, onChars_ofChars, readExpressionAt_ofChars]
  · next hhead =>
    split
    · next group hgroup =>
      rw [hgroup] at hhead
      exact absurd rfl hhead
    · rfl

/-- Reading a directive by offsets never fails and finds what reading its characters finds. Octets
are cut only where one part of the characters ends and the other starts, and where an operator of
two characters may start, the next octet is an equals sign exactly if the next character is one. -/
theorem findIn_ofText (keyword description : String) :
    findIn (ofText keyword) (ofText description) = .ok (find? ⟨keyword⟩ description) ∧
    (∀ (text : List Char) (i : Nat), isBoundary (ofChars text) i = true ↔
      ∃ front back, text = front ++ back ∧ i = (ofChars front).length) ∧
    ∀ (front back : List Char) (c : Char), StartsLongOperator c →
      (equalsFollows (ofChars (front ++ c :: back)) (ofChars front).length = true ↔
        ∃ rest, back = '=' :: rest) := by
  refine ⟨?_, fun _ _ => isBoundary_ofChars_iff,
    fun front back c hc => equalsFollows_iff hc front back⟩
  unfold findIn find?
  simp only [bind, Except.bind]
  rcases locateFrom_ofChars keyword.toList [] description.toList with ⟨hnone, hlocate⟩ |
    ⟨middle, rest, htext, hsome, hlocate⟩
  · have hlocate' : locateFrom (ofText keyword) (ofText description) 0 = .ok none := by
      rw [ofText_eq, ofText_eq]
      exact hlocate
    rw [hlocate', hnone]
    rfl
  · have hlocate' : locateFrom (ofText keyword) (ofText description) 0 =
        .ok (some (ofChars middle).length) := by
      rw [ofText_eq, ofText_eq]
      exact hlocate
    have hslice : sliceFrom (ofText description) (ofChars middle).length = .ok (ofChars rest) := by
      rw [ofText_eq, htext]
      exact sliceFrom_length middle rest
    rw [hlocate', hsome]
    simp only [hslice, readGroupAt_ofChars]
    rfl

/-- Letters of two octets in the keyword, in front of the marker, and on both sides of an operator.
The offset between the two octets of a letter is no place to cut. -/
theorem findIn_ofText_letters :
    StartsLongOperator '<' ∧
      findIn (ofText "é") (ofText "ü$é (ö<=ß)") = .ok (some ⟨.comparing "ö" .le ["ß"], none⟩) ∧
      equalsFollows (ofChars "ö<=ß".toList) 2 = true ∧
      ¬ ∃ front back, "ö<=ß".toList = front ++ back ∧ 1 = (ofChars front).length := by
  obtain ⟨hrun, hboundary, hequals⟩ := findIn_ofText "é" "ü$é (ö<=ß)"
  have hfind : find? ⟨"é"⟩ "ü$é (ö<=ß)" = some ⟨.comparing "ö" .le ["ß"], none⟩ := by
    decide +kernel
  have hmark : StartsLongOperator '<' := .inr (.inl rfl)
  rw [hfind] at hrun
  refine ⟨hmark, hrun, (hequals ['ö'] "=ß".toList '<' hmark).2 ⟨['ß'], rfl⟩, ?_⟩
  rw [← hboundary]
  decide

end RequiredFields.Directive
