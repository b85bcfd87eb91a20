import RequiredFields.Directive.Printer

/-!
# Balanced groups

`Balanced` is the grammar of what may stand in a group: characters, pairs of a backslash and any
character, and groups inside. The reader of a group passes over a balanced text as a whole, with any
number of groups open around it (`closeGroup?_append`), so a group closes right behind its balanced
body (`closeGroup?_balanced`). What the reader returns is balanced in turn: while groups are open
inside, the text that follows is `Pending`, a balanced text for each of them
(`pending_of_closeGroup?`). Escaped texts are balanced, and unescaping them gives them back.
-/

namespace RequiredFields.Directive

/-- The texts in which every parenthesis that no backslash protects has its partner. -/
inductive Balanced : List Char → Prop where
  /-- Nothing. -/
  | nil : Balanced []
  /-- A character without a meaning of its own, and a balanced text. -/
  | plain {c : Char} {text : List Char} (hesc : c ≠ '\\') (hopen : c ≠ '(') (hclose : c ≠ ')')
    (h : Balanced text) : Balanced (c :: text)
  /-- A backslash, the character that it protects, and a balanced text. -/
  | escaped (c : Char) {text : List Char} (h : Balanced text) : Balanced ('\\' :: c :: text)
  /-- A group with a balanced body, and a balanced text. -/
  | group {body text : List Char} (hbody : Balanced body) (h : Balanced text) :
    Balanced ('(' :: (body ++ ')' :: text))

/-- The pair that a reader of groups returns, with more text in front of the body. -/
def prependBody (front : List Char) (p : List Char × List Char) : List Char × List Char :=
  (front ++ p.1, p.2)

/-- Texts put in front one after the other are put in front as one text. -/
theorem prependBody_comp (a b : List Char) :
    prependBody a ∘ prependBody b = prependBody (a ++ b) := by
  funext p
  simp [prependBody]

/-- A character without a meaning of its own belongs to the body. -/
theorem closeGroup?_plain {c : Char} (hesc : c ≠ '\\') (hopen : c ≠ '(') (hclose : c ≠ ')')
    (inner : Nat) (text : List Char) :
    closeGroup? inner (c :: text) = (closeGroup? inner text).map (prependBody [c]) := by
  rw [closeGroup?]
  · rfl
  all_goals simp_all

/-- A backslash and the character behind it belong to the body. -/
theorem closeGroup?_escaped (c : Char) (inner : Nat) (text : List Char) :
    closeGroup? inner ('\\' :: c :: text) =
      (closeGroup? inner text).map (prependBody ['\\', c]) := by
  rw [closeGroup?]
  rfl

/-- An opening parenthesis opens a group inside. -/
theorem closeGroup?_open (inner : Nat) (text : List Char) :
    closeGroup? inner ('(' :: text) = (closeGroup? (inner + 1) text).map (prependBody ['(']) := by
  rw [closeGroup?]
  rfl

/-- A closing parenthesis closes the last group that was opened inside. -/
theorem closeGroup?_close (inner : Nat) (text : List Char) :
    closeGroup? (inner + 1) (')' :: text) =
      (closeGroup? inner text).map (prependBody [')']) := by
  rw [closeGroup?]
  rfl

/-- A balanced text belongs to the body as a whole, whatever groups are open around it. -/
theorem closeGroup?_append {body : List Char} (h : Balanced body) (inner : Nat)
    (text : List Char) :
    closeGroup? inner (body ++ text) = (closeGroup? inner text).map (prependBody body) := by
  induction h generalizing inner text with
  | nil =>
    have hid : prependBody [] = id := funext fun p => rfl
    rw [hid, Option.map_id, List.nil_append]
    rfl
  | plain hesc hopen hclose _ ih =>
    rw [List.cons_append, closeGroup?_plain hesc hopen hclose, ih, Option.map_map, prependBody_comp]
    rfl
  | escaped c _ ih =>
    rw [List.cons_append, List.cons_append, closeGroup?_escaped, ih, Option.map_map,
      prependBody_comp]
    rfl
  | group _ _ ihbody ih =>
    -- The group inside is read with one group more open, up to its own parenthesis.
    rw [List.cons_append, List.append_assoc, List.cons_append, closeGroup?_open, ihbody,
      closeGroup?_close, ih]
    simp only [Option.map_map, prependBody_comp]
    rfl

/-- A group closes behind its balanced body. -/
theorem closeGroup?_balanced {body : List Char} (h : Balanced body) (rest : List Char) :
    closeGroup? 0 (body ++ ')' :: rest) = some (body, rest) := by
  rw [closeGroup?_append h, closeGroup?]
  simp [prependBody]

/-- A pair with more text in front of its body is the pair that it was made from. -/
theorem exists_of_map_prependBody (front : List Char) {body rest : List Char}
    {p : Option (List Char × List Char)} (h : p.map (prependBody front) = some (body, rest)) :
    ∃ body', body = front ++ body' ∧ p = some (body', rest) := by
  obtain ⟨⟨body', rest'⟩, hp, heq⟩ := Option.map_eq_some_iff.1 h
  obtain ⟨rfl, rfl⟩ := Prod.mk.inj heq
  exact ⟨body', rfl, hp⟩

/-- What follows in the body while `inner` groups inside it are open: for each of them a balanced
text and the parenthesis that closes it, and then a balanced text. -/
def Pending : Nat → List Char → Prop
  | 0, body => Balanced body
  | inner + 1, body =>
    ∃ front rest, body = front ++ ')' :: rest ∧ Balanced front ∧ Pending inner rest

/-- A text that may stand in front of every balanced text may stand in front of what is pending. -/
theorem Pending.append {front : List Char}
    (hfront : ∀ text, Balanced text → Balanced (front ++ text)) :
    ∀ {inner : Nat} {body : List Char}, Pending inner body → Pending inner (front ++ body)
  | 0, _, h => hfront _ h
  | _ + 1, _, ⟨text, rest, hbody, htext, hrest⟩ =>
    ⟨front ++ text, rest, by rw [hbody, List.append_assoc], hfront _ htext, hrest⟩

/-- Behind an opening parenthesis one group more is pending. -/
theorem Pending.group {inner : Nat} {body : List Char} (h : Pending (inner + 1) body) :
    Pending inner ('(' :: body) := by
  obtain ⟨front, rest, rfl, hfront, hrest⟩ := h
  have hgroup : Pending inner ('(' :: (front ++ [')']) ++ rest) := by
    refine hrest.append fun text htext => ?_
    simpa using Balanced.group hfront htext
  simpa using hgroup

/-- A backslash is either the last character or has one behind it, so a character for which the
reader of a group has ruled out both is no backslash. -/
theorem ne_backslash {c : Char} {text : List Char} (hlast : c = '\\' → text = [] → False)
    (hesc : ∀ d rest, c = '\\' → text = d :: rest → False) : c ≠ '\\' := by
  intro hc
  cases text with
  | nil => exact hlast hc rfl
  | cons d text => exact hesc d text hc rfl

/-- The reader of a group returns the text up to a closing parenthesis, and in that text the groups
that were open are closed. -/
theorem pending_of_closeGroup? {inner : Nat} {text body rest : List Char}
    (h : closeGroup? inner text = some (body, rest)) :
    text = body ++ ')' :: rest ∧ Pending inner body := by
  -- The cases are those of the reader, in its order.
  fun_induction closeGroup? inner text generalizing body with
  | case1 | case2 => contradiction
  | case3 inner c text ih =>
    obtain ⟨body, rfl, hread⟩ := exists_of_map_prependBody ['\\', c] h
    obtain ⟨rfl, hbody⟩ := ih hread
    exact ⟨rfl, hbody.append fun _ => .escaped c⟩
  | case4 inner text ih =>
    obtain ⟨body, rfl, hread⟩ := exists_of_map_prependBody ['('] h
    obtain ⟨rfl, hbody⟩ := ih hread
    exact ⟨rfl, hbody.group⟩
  | case5 text =>
    obtain ⟨rfl, rfl⟩ := Prod.mk.inj (Option.some.inj h)
    exact ⟨rfl, .nil⟩
  | case6 text inner ih =>
    obtain ⟨body, rfl, hread⟩ := exists_of_map_prependBody [')'] h
    obtain ⟨rfl, hbody⟩ := ih hread
    exact ⟨rfl, [], body, rfl, .nil, hbody⟩
  | case7 inner c text hlast hesc hopen hclose ih =>
    obtain ⟨body, rfl, hread⟩ := exists_of_map_prependBody [c] h
    obtain ⟨rfl, hbody⟩ := ih hread
    exact ⟨rfl, hbody.append fun _ => .plain (ne_backslash hlast hesc) hopen hclose⟩

/-- A group closes behind its body exactly where the body is balanced and a parenthesis follows. -/
theorem closeGroup?_eq_some {text body rest : List Char} :
    closeGroup? 0 text = some (body, rest) ↔ text = body ++ ')' :: rest ∧ Balanced body := by
  constructor
  · exact fun h => pending_of_closeGroup? h
  · rintro ⟨rfl, hbody⟩
    exact closeGroup?_balanced hbody rest

/-- A group is never closed exactly if no parenthesis follows a balanced text at its start. -/
theorem closeGroup?_eq_none {text : List Char} :
    closeGroup? 0 text = none ↔ ∀ body rest, text = body ++ ')' :: rest → ¬ Balanced body := by
  rw [Option.eq_none_iff_forall_ne_some, Prod.forall]
  simp only [ne_eq, closeGroup?_eq_some, not_and]

/-- An escaped text is balanced. -/
theorem balanced_escape (text : List Char) : Balanced (escape text) := by
  induction text with
  | nil => exact .nil
  | cons c text ih =>
    rw [escape]
    split
    · exact .escaped c ih
    · next hc =>
      simp only [isEscapable, Bool.or_eq_true, beq_iff_eq, not_or] at hc
      exact .plain hc.2 hc.1.1.2 hc.1.2 ih

/-- A character that is no backslash stays as it is. -/
theorem unescape_cons {c : Char} (hc : c ≠ '\\') (text : List Char) :
    unescape (c :: text) = c :: unescape text := by
  rw [unescape]
  all_goals simp_all

/-- Unescaping an escaped text gives it back. -/
theorem unescape_escape (text : List Char) : unescape (escape text) = text := by
  induction text with
  | nil => rfl
  | cons c text ih =>
    rw [escape]
    split
    · next hc => rw [unescape, if_pos hc, ih]
    · next hc =>
      have hesc : c ≠ '\\' := fun h => hc (by rw [h]; rfl)
      rw [unescape_cons hesc, ih]

end RequiredFields.Directive
