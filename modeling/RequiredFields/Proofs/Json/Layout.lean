import RequiredFields.Json.Value

/-!
# Layouts

A value is written in one line or in several, and the two texts differ in the blanks between their
parts alone. `writeIn` writes a value in any layout, which says what stands at the start of a line
and behind a colon; the two ways to write a value are two layouts (`write_eq_writeIn`,
`writeLines_eq_writeIn`). What is read from a written value is proved once for all layouts of
blanks.
-/

namespace RequiredFields.Json

/-- A text without anything but blanks between the parts of a JSON text. -/
def IsGap (text : List Char) : Prop :=
  ∀ c ∈ text, isBlank c = true

/-- What stands between the parts of a written value. -/
structure Layout where
  /-- The start of a line at a level of nesting. -/
  line : Nat → List Char
  /-- What follows a colon. -/
  space : List Char
  /-- Lines start with blanks. -/
  isGap_line : ∀ level, IsGap (line level)
  /-- Blanks follow a colon. -/
  isGap_space : IsGap space

/-- A new line and what indents it are blanks. -/
theorem isGap_newLine (level : Nat) : IsGap (Value.newLine level) := by
  refine List.forall_mem_cons.2 ⟨rfl, fun c hc => ?_⟩
  rw [List.eq_of_mem_replicate hc]
  rfl

namespace Layout

/-- No blanks at all. -/
def compact : Layout where
  line _ := []
  space := []
  isGap_line _ := List.forall_mem_nil _
  isGap_space := List.forall_mem_nil _

/-- A line for every part. -/
def pretty : Layout where
  line := Value.newLine
  space := [' ']
  isGap_line := isGap_newLine
  isGap_space := by
    intro c hc
    rw [List.mem_singleton.1 hc]
    rfl

/-- Parts of an array or object in a layout, between brackets. -/
def bracketed (l : Layout) (level : Nat) (first last : Char) (parts : List (List Char)) :
    List Char :=
  if parts.isEmpty then [first, last]
  else first :: (Value.withCommas (parts.map (l.line (level + 1) ++ ·)) ++ l.line level ++ [last])

end Layout

namespace Value

mutual

/-- The value in a layout, at the given level of nesting. -/
def writeIn (l : Layout) (level : Nat) : Value → List Char
  | null => ['n', 'u', 'l', 'l']
  | boolean true => ['t', 'r', 'u', 'e']
  | boolean false => ['f', 'a', 'l', 's', 'e']
  | number n => writeNumber n
  | string s => writeString s
  | array items => l.bracketed level '[' ']' (itemsIn l (level + 1) items)
  | object members => l.bracketed level '\x7b' '\x7d' (membersIn l (level + 1) members)

/-- The elements of an array in a layout. -/
def itemsIn (l : Layout) (level : Nat) : List Value → List (List Char)
  | [] => []
  | x :: items => x.writeIn l level :: itemsIn l level items

/-- The members of an object in a layout. -/
def membersIn (l : Layout) (level : Nat) : List (String × Value) → List (List Char)
  | [] => []
  | (name, x) :: members =>
    (writeString name ++ ':' :: (l.space ++ x.writeIn l level)) :: membersIn l level members

end

/-- Without blanks, brackets stand around parts with commas between them. -/
theorem bracketed_compact (level : Nat) (first last : Char) (parts : List (List Char)) :
    Layout.compact.bracketed level first last parts = first :: (withCommas parts ++ [last]) := by
  cases parts <;> simp [Layout.bracketed, Layout.compact, withCommas]

mutual

/-- A value in one line is written without blanks. -/
theorem write_eq_writeIn (level : Nat) : ∀ x : Value, x.write = x.writeIn .compact level
  | null | boolean true | boolean false | number _ | string _ => by simp only [write, writeIn]
  | array items => by
    rw [write, writeIn, bracketed_compact, writeItems_eq_itemsIn (level + 1) items]
  | object members => by
    rw [write, writeIn, bracketed_compact, writeMembers_eq_membersIn (level + 1) members]

/-- The elements of an array in one line are written without blanks. -/
theorem writeItems_eq_itemsIn (level : Nat) :
    ∀ items : List Value, writeItems items = itemsIn .compact level items
  | [] => by rw [writeItems, itemsIn]
  | x :: items => by
    rw [writeItems, itemsIn, write_eq_writeIn level x, writeItems_eq_itemsIn level items]

/-- The members of an object in one line are written without blanks. -/
theorem writeMembers_eq_membersIn (level : Nat) :
    ∀ members : List (String × Value), writeMembers members = membersIn .compact level members
  | [] => by rw [writeMembers, membersIn]
  | (name, x) :: members => by
    rw [writeMembers, membersIn, write_eq_writeIn level x,
      writeMembers_eq_membersIn level members]
    rfl

end

mutual

/-- A value in several lines is written with blanks. -/
theorem writeLines_eq_writeIn (level : Nat) :
    ∀ x : Value, x.writeLines level = x.writeIn .pretty level
  | null | boolean true | boolean false | number _ | string _ => by simp only [writeLines, writeIn]
  | array items => by
    rw [writeLines, writeIn, itemLines_eq_itemsIn (level + 1) items]
    rfl
  | object members => by
    rw [writeLines, writeIn, memberLines_eq_membersIn (level + 1) members]
    rfl

/-- The elements of an array in several lines are written with blanks. -/
theorem itemLines_eq_itemsIn (level : Nat) :
    ∀ items : List Value, itemLines level items = itemsIn .pretty level items
  | [] => by rw [itemLines, itemsIn]
  | x :: items => by
    rw [itemLines, itemsIn, writeLines_eq_writeIn level x, itemLines_eq_itemsIn level items]

/-- The members of an object in several lines are written with blanks. -/
theorem memberLines_eq_membersIn (level : Nat) :
    ∀ members : List (String × Value), memberLines level members = membersIn .pretty level members
  | [] => by rw [memberLines, membersIn]
  | (name, x) :: members => by
    rw [memberLines, membersIn, writeLines_eq_writeIn level x,
      memberLines_eq_membersIn level members]
    rfl

end

end Value

end RequiredFields.Json
