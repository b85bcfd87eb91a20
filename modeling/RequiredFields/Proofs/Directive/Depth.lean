import RequiredFields.Proofs.Directive.Group

/-!
# Counting parentheses

A group can also be read by counting. The depth is the number of parentheses that are open, the one
in front of the text included, and the group ends where the depth comes to zero. All that such a
reader remembers of the groups inside is how many they are, so it might close more than were opened:
`countGroup` fails there. It never does, and it finds what the reader of groups finds
(`countGroup_eq`). `closeGroup?_grammar` joins this to the grammar: the body is the one balanced
text at the start that a closing parenthesis follows.
-/

namespace RequiredFields.Directive

/-- How counting fails. -/
inductive DepthFault where
  /-- A parenthesis is closed while none is open. -/
  | belowZero
  deriving DecidableEq, Repr

/-- The body of a group and the text after it, read with a depth and a mark for a character that a
backslash protects. There is none when the text ends before the depth comes to zero. -/
def countGroup : Nat → Bool → List Char → Except DepthFault (Option (List Char × List Char))
  | _, _, [] => .ok none
  | depth, true, c :: text => (countGroup depth false text).map (Option.map (prependBody [c]))
  | depth, false, '\\' :: text =>
    (countGroup depth true text).map (Option.map (prependBody ['\\']))
  | depth, false, '(' :: text =>
    (countGroup (depth + 1) false text).map (Option.map (prependBody ['(']))
  | 0, false, ')' :: _ => .error .belowZero
  | 1, false, ')' :: text => .ok (some ([], text))
  | depth + 2, false, ')' :: text =>
    (countGroup (depth + 1) false text).map (Option.map (prependBody [')']))
  | depth, false, c :: text => (countGroup depth false text).map (Option.map (prependBody [c]))

/-- Any character but a backslash or a parenthesis belongs to the body. -/
theorem countGroup_plain {c : Char} (hesc : c ≠ '\\') (hopen : c ≠ '(') (hclose : c ≠ ')')
    (depth : Nat) (text : List Char) :
    countGroup depth false (c :: text) =
      (countGroup depth false text).map (Option.map (prependBody [c])) := by
  rw [countGroup]
  all_goals simp_all

/-- While `inner` groups are open inside, the depth is one more, for the group itself. Counting from
there never fails and finds what the reader of groups finds. -/
theorem countGroup_eq (inner : Nat) (text : List Char) :
    countGroup (inner + 1) false text = .ok (closeGroup? inner text) := by
  -- The cases are those of the reader of groups, in its order.
  fun_induction closeGroup? inner text with
  | case1 | case2 => rfl
  | case3 inner c text ih =>
    -- The backslash and the character behind it are two steps of counting.
    rw [countGroup, countGroup, ih]
    simp only [Except.map, Option.map_map, prependBody_comp]
    rfl
  | case4 inner text ih =>
    rw [countGroup, ih]
    rfl
  | case5 text => rw [countGroup]
  | case6 text inner ih =>
    rw [countGroup, ih]
    rfl
  | case7 inner c text hlast hesc hopen hclose ih =>
    rw [countGroup_plain (ne_backslash hlast hesc) hopen hclose, ih]
    rfl

/-- The text starts with a balanced body and the parenthesis that closes its group. -/
def StartsWithBody (text body : List Char) : Prop :=
  ∃ rest, text = body ++ ')' :: rest ∧ Balanced body

/-- The body that is read is the balanced text at the start that a closing parenthesis follows. -/
theorem map_fst_closeGroup?_eq_some {text body : List Char} :
    (closeGroup? 0 text).map (·.1) = some body ↔ StartsWithBody text body := by
  rw [Option.map_eq_some_iff]
  constructor
  · rintro ⟨⟨body, rest⟩, hread, rfl⟩
    exact ⟨rest, closeGroup?_eq_some.1 hread⟩
  · rintro ⟨rest, hbody⟩
    exact ⟨(body, rest), closeGroup?_eq_some.2 hbody, rfl⟩

/-- The reader of groups accepts exactly its grammar. Its body is the one with which the text
starts, balanced and in front of a closing parenthesis; a text starts with one such body at most,
and the reader refuses exactly the texts that start with none. Counting the open parentheses, the
first of them the one in front of the text, finds the same, and on no text does the count go below
zero. -/
theorem closeGroup?_grammar (text : List Char) :
    (∀ body, (closeGroup? 0 text).map (·.1) = some body ↔ StartsWithBody text body) ∧
    (∀ body body', StartsWithBody text body → StartsWithBody text body' → body = body') ∧
    (closeGroup? 0 text = none ↔ ∀ body, ¬ StartsWithBody text body) ∧
    countGroup 1 false text = .ok (closeGroup? 0 text) := by
  refine ⟨fun _ => map_fst_closeGroup?_eq_some, ?_, ?_, countGroup_eq 0 text⟩
  · -- Both bodies are what the reader returns.
    intro body body' h h'
    have hread := map_fst_closeGroup?_eq_some.2 h
    have hread' := map_fst_closeGroup?_eq_some.2 h'
    exact Option.some.inj (hread.symm.trans hread')
  · rw [← Option.map_eq_none_iff (f := Prod.fst), Option.eq_none_iff_forall_ne_some]
    exact forall_congr' fun _ => not_congr map_fst_closeGroup?_eq_some

-- A protected parenthesis does not count and a group inside does; a text that ends in the midst of
-- an escape is never closed.
example : countGroup 1 false "a\\)(b\\\\) c) d)".toList =
    .ok (some ("a\\)(b\\\\) c".toList, " d)".toList)) := by
  rfl

example : countGroup 1 false "(a))\\".toList = .ok (some ("(a)".toList, "\\".toList)) ∧
    countGroup 1 false "(a)\\".toList = .ok none := by
  exact ⟨rfl, rfl⟩

end RequiredFields.Directive
