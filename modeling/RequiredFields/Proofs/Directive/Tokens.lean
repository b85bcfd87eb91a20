import RequiredFields.Proofs.Directive.Depth

/-!
# The tokens of a group

A body is made of tokens: a backslash with the character behind it, or a character that is no
backslash. It has one such division (`spell_injective`), and a body of a group never ends in the
midst of a token (`Balanced.exists_spell`). Two readers go over it on their own, the one that counts
parentheses, which passes over whatever a backslash protects, and the one that unescapes, which
drops a backslash only in front of four characters and reads on with the next character otherwise.
Both go from token to token: between two tokens nothing is protected (`Count.foldl_spell`), and what
is unescaped of a token does not depend on its neighbours (`unescape_text_append`). So they agree on
which parentheses are protected (`closeGroup?_tokens`).
-/

namespace RequiredFields.Directive

/-- A part of a body that is read as one. -/
inductive Token where
  /-- A backslash and the character behind it. -/
  | pair (c : Char)
  /-- A character that is no backslash. -/
  | single (c : Char) (h : c ≠ '\\')
  deriving DecidableEq

namespace Token

/-- The characters of the token. -/
def text : Token → List Char
  | pair c => ['\\', c]
  | single c _ => [c]

/-- What the token stands for in an expression. -/
def meaning : Token → List Char
  | pair c => if c ∈ [',', '(', ')', '\\'] then [c] else ['\\', c]
  | single c _ => [c]

end Token

/-- The text that tokens make up. -/
def spell (tokens : List Token) : List Char :=
  tokens.flatMap Token.text

/-- The first token stands in front of the others. -/
theorem spell_cons (t : Token) (tokens : List Token) :
    spell (t :: tokens) = t.text ++ spell tokens :=
  List.flatMap_cons

/-- Tokens side by side make up their texts side by side. -/
theorem spell_append (a b : List Token) : spell (a ++ b) = spell a ++ spell b :=
  List.flatMap_append

/-- A text is made up of tokens in one way at most. -/
theorem spell_injective {a b : List Token} (h : spell a = spell b) : a = b := by
  -- A token is a pair exactly if its first character is a backslash.
  induction a generalizing b with
  | nil =>
    cases b with
    | nil => rfl
    | cons t b => cases t <;> contradiction
  | cons s a ih =>
    cases b with
    | nil => cases s <;> contradiction
    | cons t b =>
      rw [spell_cons, spell_cons] at h
      cases s with
      | pair c =>
        cases t with
        | pair d =>
          obtain ⟨hcd, htail⟩ := List.cons.inj (List.cons.inj h).2
          rw [hcd, ih htail]
        | single d hd => exact absurd (List.cons.inj h).1.symm hd
      | single c hc =>
        cases t with
        | pair d => exact absurd (List.cons.inj h).1 hc
        | single d hd =>
          obtain ⟨rfl, htail⟩ := List.cons.inj h
          rw [ih htail]

/-- A balanced text is made up of tokens. -/
theorem Balanced.exists_spell {body : List Char} (h : Balanced body) :
    ∃ tokens, spell tokens = body := by
  induction h with
  | nil => exact ⟨[], rfl⟩
  | plain hesc _ _ _ ih =>
    obtain ⟨tokens, rfl⟩ := ih
    exact ⟨.single _ hesc :: tokens, rfl⟩
  | escaped c _ ih =>
    obtain ⟨tokens, rfl⟩ := ih
    exact ⟨.pair c :: tokens, rfl⟩
  | group _ _ ihbody ih =>
    obtain ⟨inner, rfl⟩ := ihbody
    obtain ⟨tokens, rfl⟩ := ih
    refine ⟨.single '(' (by decide) :: (inner ++ .single ')' (by decide) :: tokens), ?_⟩
    rw [spell_cons, spell_append, spell_cons]
    rfl

/-- The token stands among the others between two texts. -/
def StandsBetween (t : Token) (tokens : List Token) (front back : List Char) : Prop :=
  ∃ before behind, tokens = before ++ t :: behind ∧ spell before = front ∧ spell behind = back

/-- The first token stands in front of the others. -/
theorem standsBetween_head (t : Token) (tokens : List Token) :
    StandsBetween t (t :: tokens) [] (spell tokens) :=
  ⟨[], tokens, rfl, rfl, rfl⟩

/-- With a token more in front, the others stand behind it. -/
theorem StandsBetween.cons {t : Token} {tokens : List Token} {front back : List Char}
    (h : StandsBetween t tokens front back) (s : Token) :
    StandsBetween t (s :: tokens) (s.text ++ front) back := by
  obtain ⟨before, behind, rfl, rfl, rfl⟩ := h
  exact ⟨s :: before, behind, rfl, spell_cons s before, rfl⟩

/-- A character that is no backslash is a token of its own or the second character of one. -/
theorem standsBetween_of_spell_eq {tokens : List Token} {c : Char} (hc : c ≠ '\\')
    {front back : List Char} (h : spell tokens = front ++ c :: back) :
    StandsBetween (.single c hc) tokens front back ∨
      ∃ front', front = front' ++ ['\\'] ∧ StandsBetween (.pair c) tokens front' back := by
  induction tokens generalizing front with
  | nil => simp [spell] at h
  | cons t tokens ih =>
    rw [spell_cons] at h
    -- What is found among the tokens behind the first one is found with this one in front.
    have later : ∀ front', front = t.text ++ front' → spell tokens = front' ++ c :: back →
        StandsBetween (.single c hc) (t :: tokens) front back ∨
          ∃ front', front = front' ++ ['\\'] ∧
            StandsBetween (.pair c) (t :: tokens) front' back := by
      rintro front' rfl hspell
      rcases ih hspell with hsingle | ⟨front', rfl, hpair⟩
      · exact .inl (hsingle.cons t)
      · exact .inr ⟨t.text ++ front', (List.append_assoc ..).symm, hpair.cons t⟩
    cases t with
    | single d hd =>
      cases front with
      | nil =>
        obtain ⟨rfl, rfl⟩ := List.cons.inj h
        exact .inl (standsBetween_head _ tokens)
      | cons e front =>
        obtain ⟨rfl, hspell⟩ := List.cons.inj h
        exact later front rfl hspell
    | pair d =>
      cases front with
      | nil => exact absurd (List.cons.inj h).1.symm hc
      | cons e front =>
        obtain ⟨rfl, htail⟩ := List.cons.inj h
        cases front with
        | nil =>
          obtain ⟨rfl, rfl⟩ := List.cons.inj htail
          exact .inr ⟨[], rfl, standsBetween_head _ tokens⟩
        | cons e front =>
          obtain ⟨rfl, hspell⟩ := List.cons.inj htail
          exact later front rfl hspell

/-! ## Unescaping -/

/-- The characters that lose their backslash are the comma, the parentheses and the backslash. -/
theorem isEscapable_iff {c : Char} : isEscapable c = true ↔ c ∈ [',', '(', ')', '\\'] := by
  simp [isEscapable, or_assoc]

/-- A token is unescaped without regard to what follows. -/
theorem unescape_text_append (t : Token) (text : List Char) :
    unescape (t.text ++ text) = t.meaning ++ unescape text := by
  cases t with
  | single c hc => exact unescape_cons hc text
  | pair c =>
    show unescape ('\\' :: c :: text) = _
    rw [unescape, Token.meaning]
    by_cases h : isEscapable c = true
    · rw [if_pos h, if_pos (isEscapable_iff.1 h)]
      rfl
    · -- The backslash is kept, and the character is no backslash that could protect the next one.
      have hc : c ≠ '\\' := fun hc => h (by rw [hc]; rfl)
      rw [if_neg h, if_neg (mt isEscapable_iff.2 h), unescape_cons hc]
      rfl

/-- Tokens are unescaped one by one, whatever follows them. -/
theorem unescape_spell_append (tokens : List Token) (text : List Char) :
    unescape (spell tokens ++ text) = tokens.flatMap Token.meaning ++ unescape text := by
  induction tokens with
  | nil => rfl
  | cons t tokens ih =>
    rw [spell_cons, List.append_assoc, unescape_text_append, ih, List.flatMap_cons,
      List.append_assoc]

/-- A text of tokens is unescaped to what they stand for. -/
theorem unescape_spell (tokens : List Token) :
    unescape (spell tokens) = tokens.flatMap Token.meaning := by
  have h := unescape_spell_append tokens []
  rwa [List.append_nil, unescape, List.append_nil] at h

/-- What stands before a token and behind it is unescaped apart from it. -/
theorem StandsBetween.unescape_eq {t : Token} {tokens : List Token} {front back : List Char}
    (h : StandsBetween t tokens front back) :
    unescape (spell tokens) = unescape front ++ (t.meaning ++ unescape back) := by
  obtain ⟨before, behind, rfl, rfl, rfl⟩ := h
  rw [spell_append, unescape_spell_append, spell_cons, unescape_text_append, unescape_spell before]

/-! ## Counting -/

/-- Where a reader that counts parentheses stands. -/
structure Count where
  /-- How many parentheses are open, the one in front of the text included. -/
  depth : Nat := 1
  /-- Whether the next character is protected. -/
  isProtected : Bool := false
  deriving DecidableEq, Repr

namespace Count

/-- What a character does: behind a backslash it does nothing but end the protection. -/
def step (s : Count) (c : Char) : Count :=
  if s.isProtected then ⟨s.depth, false⟩
  else if c = '\\' then ⟨s.depth, true⟩
  else if c = '(' then ⟨s.depth + 1, false⟩
  else if c = ')' then ⟨s.depth - 1, false⟩
  else ⟨s.depth, false⟩

/-- Where the reader stands behind a text. -/
def behind (front : List Char) : Count :=
  front.foldl step {}

/-- Behind a single character nothing is protected. -/
theorem isProtected_step {s : Count} (hs : s.isProtected = false) {c : Char} (hc : c ≠ '\\') :
    (s.step c).isProtected = false := by
  simp only [step, hs, hc, if_false, Bool.false_eq_true]
  split
  · rfl
  · split <;> rfl

/-- Between tokens nothing is protected. -/
theorem isProtected_foldl_spell {s : Count} (hs : s.isProtected = false) (tokens : List Token) :
    ((spell tokens).foldl step s).isProtected = false := by
  induction tokens generalizing s with
  | nil => exact hs
  | cons t tokens ih =>
    rw [spell_cons, List.foldl_append]
    refine ih ?_
    cases t with
    | single c hc => exact isProtected_step hs hc
    | pair c => simp [Token.text, step, hs]

/-- What was read behind a character is the body behind it. -/
theorem of_map_prependBody {read : Except DepthFault (Option (List Char × List Char))} {c d : Char}
    {body rest : List Char}
    (h : read.map (Option.map (prependBody [c])) = .ok (some (d :: body, rest))) :
    c = d ∧ read = .ok (some (body, rest)) := by
  cases read with
  | error e => contradiction
  | ok read =>
    obtain ⟨body', hbody, hread⟩ := exists_of_map_prependBody [c] (Except.ok.inj h)
    obtain ⟨rfl, rfl⟩ := List.cons.inj hbody
    exact ⟨rfl, by rw [hread]⟩

/-- The character ends the group: it is a closing parenthesis that is not protected, and no group
inside is left for it to close. -/
def Ends (s : Count) (c : Char) : Prop :=
  c = ')' ∧ s.isProtected = false ∧ s.depth ≤ 1

/-- Where a group ends, or the depth would go below zero, no body has the character. -/
theorem countGroup_ne_of_ends {s : Count} {c : Char} (h : s.Ends c) (text : List Char) {d : Char}
    {body rest : List Char} :
    countGroup s.depth s.isProtected (c :: text) ≠ .ok (some (d :: body, rest)) := by
  intro hread
  obtain ⟨rfl, hs, hdepth⟩ := h
  rw [hs] at hread
  obtain hdepth | hdepth := Nat.le_one_iff_eq_zero_or_eq_one.1 hdepth
  · rw [hdepth, countGroup] at hread
    cases hread
  · rw [hdepth, countGroup] at hread
    cases hread

/-- A character that does not end the group belongs to the body, and is one step of counting. -/
theorem countGroup_cons {s : Count} {c : Char} (h : ¬ s.Ends c) (text : List Char) :
    countGroup s.depth s.isProtected (c :: text) =
      (countGroup (s.step c).depth (s.step c).isProtected text).map
        (Option.map (prependBody [c])) := by
  obtain ⟨depth, isProtected⟩ := s
  cases isProtected with
  | true =>
    rw [countGroup]
    rfl
  | false =>
    by_cases hesc : c = '\\'
    · rw [hesc, countGroup]
      rfl
    by_cases hopen : c = '('
    · rw [hopen, countGroup]
      rfl
    by_cases hclose : c = ')'
    · -- A group inside is left for the parenthesis to close.
      obtain ⟨n, rfl⟩ : ∃ n, depth = n + 2 := by
        have hdepth : ¬ depth ≤ 1 := fun hdepth => h ⟨hclose, rfl, hdepth⟩
        exact ⟨depth - 2, by omega⟩
      rw [hclose, countGroup]
      rfl
    · rw [countGroup_plain hesc hopen hclose]
      simp only [step, if_neg hesc, if_neg hopen, if_neg hclose, Bool.false_eq_true, if_false]

/-- A reader whose body starts with a character passes over this character. -/
theorem countGroup_step {s : Count} {text : List Char} {c : Char} {body rest : List Char}
    (h : countGroup s.depth s.isProtected text = .ok (some (c :: body, rest))) :
    ∃ text', text = c :: text' ∧
      countGroup (s.step c).depth (s.step c).isProtected text' = .ok (some (body, rest)) := by
  cases text with
  | nil =>
    rw [countGroup] at h
    cases h
  | cons d text =>
    have hends : ¬ s.Ends d := fun hends => countGroup_ne_of_ends hends text h
    rw [countGroup_cons hends] at h
    obtain ⟨rfl, hread⟩ := of_map_prependBody h
    exact ⟨text, rfl, hread⟩

/-- A reader whose body starts with a text passes over this text. -/
theorem countGroup_foldl {s : Count} {front text back rest : List Char}
    (h : countGroup s.depth s.isProtected text = .ok (some (front ++ back, rest))) :
    ∃ text', text = front ++ text' ∧
      countGroup (front.foldl step s).depth (front.foldl step s).isProtected text' =
        .ok (some (back, rest)) := by
  induction front generalizing s text with
  | nil => exact ⟨text, rfl, h⟩
  | cons c front ih =>
    obtain ⟨text, rfl, hstep⟩ := countGroup_step h
    obtain ⟨text, rfl, hread⟩ := ih hstep
    exact ⟨text, rfl, hread⟩

end Count

/-- Behind each part of its body the reader of a group stands where counting leads to. -/
theorem countGroup_behind {front back rest : List Char} (h : Balanced (front ++ back)) :
    countGroup (Count.behind front).depth (Count.behind front).isProtected (back ++ ')' :: rest) =
      .ok (some (back, rest)) := by
  have hread := countGroup_eq 0 (front ++ back ++ ')' :: rest)
  rw [closeGroup?_balanced h] at hread
  obtain ⟨text', htext, hread⟩ := Count.countGroup_foldl (s := {}) hread
  rw [List.append_assoc] at htext
  rw [List.append_cancel_left htext]
  exact hread

/-- In front of a token nothing is protected. -/
theorem StandsBetween.isProtected_eq_false {t : Token} {tokens : List Token}
    {front back : List Char} (h : StandsBetween t tokens front back) :
    (Count.behind front).isProtected = false := by
  obtain ⟨before, -, -, rfl, -⟩ := h
  exact Count.isProtected_foldl_spell rfl before

/-- Behind the backslash that starts a token the next character is protected. -/
theorem StandsBetween.isProtected_concat {t : Token} {tokens : List Token} {front back : List Char}
    (h : StandsBetween t tokens front back) :
    (Count.behind (front ++ ['\\'])).isProtected = true := by
  have hfront := h.isProtected_eq_false
  rw [Count.behind] at hfront ⊢
  rw [List.foldl_append]
  simp [Count.step, hfront]

/-- A character that is no backslash is not protected exactly if it is a token of its own, and
protected exactly if it is the second character of a pair. -/
theorem isProtected_iff {tokens : List Token} {c : Char} (hc : c ≠ '\\') {front back : List Char}
    (h : spell tokens = front ++ c :: back) :
    ((Count.behind front).isProtected = false ↔ StandsBetween (.single c hc) tokens front back) ∧
    ((Count.behind front).isProtected = true ↔
      ∃ front', front = front' ++ ['\\'] ∧ StandsBetween (.pair c) tokens front' back) := by
  have hsingle : StandsBetween (.single c hc) tokens front back →
      (Count.behind front).isProtected = false := StandsBetween.isProtected_eq_false
  have hpair : (∃ front', front = front' ++ ['\\'] ∧ StandsBetween (.pair c) tokens front' back) →
      (Count.behind front).isProtected = true := by
    rintro ⟨front', rfl, hstands⟩
    exact hstands.isProtected_concat
  -- The character stands at one of the two places, and each of them settles the mark.
  rcases standsBetween_of_spell_eq hc h with hstands | hstands
  · have hfalse := hsingle hstands
    exact ⟨iff_of_true hfalse hstands,
      iff_of_false (ne_true_of_eq_false hfalse) fun h' => ne_true_of_eq_false hfalse (hpair h')⟩
  · have htrue := hpair hstands
    exact ⟨iff_of_false (ne_false_of_eq_true htrue) fun h' =>
      ne_false_of_eq_true htrue (hsingle h'), iff_of_true htrue hstands⟩

/-- A body of a group is made up of tokens in one way, and it is unescaped token by token. A reader
that counts parentheses comes to each parenthesis of the body, and counts it exactly if it is a
token of its own; what it passes over as protected is the second character of a pair. So a
parenthesis that was counted stays as it is when the body is unescaped, and one that was passed over
loses its backslash. -/
theorem closeGroup?_tokens {text body rest : List Char}
    (h : closeGroup? 0 text = some (body, rest)) :
    ∃ tokens, spell tokens = body ∧ (∀ tokens', spell tokens' = body → tokens' = tokens) ∧
      unescape body = tokens.flatMap Token.meaning ∧
      ∀ front c back, body = front ++ c :: back → c = '(' ∨ c = ')' →
        countGroup (Count.behind front).depth (Count.behind front).isProtected
          (c :: back ++ ')' :: rest) = .ok (some (c :: back, rest)) ∧
        ((Count.behind front).isProtected = false ↔
          ∃ hesc, StandsBetween (.single c hesc) tokens front back) ∧
        ((Count.behind front).isProtected = true ↔
          ∃ front', front = front' ++ ['\\'] ∧ StandsBetween (.pair c) tokens front' back) ∧
        ((Count.behind front).isProtected = false →
          unescape body = unescape front ++ c :: unescape back) ∧
        ((Count.behind front).isProtected = true →
          ∃ front', front = front' ++ ['\\'] ∧
            unescape body = unescape front' ++ c :: unescape back) := by
  obtain ⟨rfl, hbody⟩ := closeGroup?_eq_some.1 h
  obtain ⟨tokens, rfl⟩ := hbody.exists_spell
  refine ⟨tokens, rfl, fun tokens' => spell_injective, unescape_spell tokens, ?_⟩
  intro front c back hsplit hc
  have hesc : c ≠ '\\' := by
    rintro rfl
    contradiction
  obtain ⟨hsingle, hpair⟩ := isProtected_iff hesc hsplit
  refine ⟨countGroup_behind (hsplit ▸ hbody), ?_, hpair, fun hfalse => ?_, fun htrue => ?_⟩
  · exact hsingle.trans ⟨fun hstands => ⟨hesc, hstands⟩, fun ⟨_, hstands⟩ => hstands⟩
  · exact (hsingle.1 hfalse).unescape_eq
  · obtain ⟨front', rfl, hstands⟩ := hpair.1 htrue
    refine ⟨front', rfl, ?_⟩
    have hmeaning : (Token.pair c).meaning = [c] := by
      rcases hc with rfl | rfl <;> rfl
    rw [hstands.unescape_eq, hmeaning]
    rfl

/-- A protected parenthesis, a counted one behind two backslashes, and a backslash that stays. -/
theorem closeGroup?_tokens_backslashes :
    let body := "a\\)(b\\\\) c\\x".toList
    closeGroup? 0 "a\\)(b\\\\) c\\x) d)".toList = some (body, " d)".toList) ∧
      (∃ tokens, spell tokens = body ∧
        unescape body = tokens.flatMap Token.meaning ∧
        StandsBetween (.pair ')') tokens "a".toList "(b\\\\) c\\x".toList ∧
        StandsBetween (.single ')' (by decide)) tokens "a\\)(b\\\\".toList " c\\x".toList) ∧
      unescape body = "a)(b\\) c\\x".toList := by
  intro body
  have hread : closeGroup? 0 "a\\)(b\\\\) c\\x) d)".toList = some (body, " d)".toList) := by rfl
  obtain ⟨tokens, hspell, -, hmeaning, hstands⟩ := closeGroup?_tokens hread
  have hskipped := (hstands "a\\".toList ')' "(b\\\\) c\\x".toList rfl (.inr rfl)).2.2.1.1 rfl
  have hcounted := (hstands "a\\)(b\\\\".toList ')' " c\\x".toList rfl (.inr rfl)).2.1.1 rfl
  obtain ⟨front, hfront, hpair⟩ := hskipped
  obtain rfl : "a".toList = front := List.append_cancel_right hfront
  obtain ⟨hesc, hsingle⟩ := hcounted
  exact ⟨hread, ⟨tokens, hspell, hmeaning, hpair, hsingle⟩, rfl⟩

end RequiredFields.Directive
