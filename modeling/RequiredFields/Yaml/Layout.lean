import RequiredFields.Yaml.Property
import RequiredFields.Yaml.Scalar

/-!
# The layout of a text

Tokens are read one after the other. Where a text could turn out to be a key, its place among the
tokens is remembered, and when a colon follows, the token for a key is put there. Indentation opens
block collections and closes them. What both versions of the format do alike is here; which token a
character starts, each version says for itself.
-/

namespace RequiredFields.Yaml

/-- A text that turns out to be a key if a colon follows it. -/
structure PossibleKey where
  /-- The number of tokens in front of it. -/
  position : Nat
  /-- The place of its first character. -/
  start : Cursor
  /-- Whether nothing but a key may stand there. -/
  required : Bool

/-- The longest key, in characters. -/
def maxKeyLength : Nat := 1024

/-- A level of indentation. -/
structure Level where
  /-- The column that it starts at. -/
  column : Nat
  /-- Whether a block collection starts there. Version 1.2 has levels of its own for what stands
  behind the indicators of a collection. -/
  isBlock : Bool
  deriving DecidableEq, Repr

/-- How far a text was read. -/
structure Layout where
  /-- What is left. -/
  cursor : Cursor
  /-- The tokens so far, the last one first. -/
  tokens : List Token := []
  /-- The number of tokens so far. -/
  count : Nat := 0
  /-- The levels of indentation, the innermost one first. -/
  levels : List Level := []
  /-- The possible key of the flow collection that is being read, or of the text outside all. -/
  possibleKey : Option PossibleKey := none
  /-- The possible keys of what surrounds it, one for each flow collection that is open. -/
  outerKeys : List (Option PossibleKey) := []
  /-- Whether a key may start here. -/
  keyAllowed : Bool := true
  /-- For each flow sequence that is open, whether an entry of it is a pair that version 1.2 has put
  into brackets; the innermost one first. -/
  pairs : List Bool := []
  /-- Whether a mapping was written with brackets or a question mark since the last such pair. -/
  mappingWritten : Bool := false
  /-- The place where in version 1.2 a colon needs no blank behind it, as a number of characters. -/
  adjacentAt : Nat := 0

namespace Layout

/-! ## State -/

/-- Whether a flow collection is open. -/
def inFlow (l : Layout) : Bool :=
  !l.outerKeys.isEmpty

/-- The column of the innermost level; `-1` outside all. -/
def indent (l : Layout) : Int :=
  match l.levels with
  | [] => -1
  | level :: _ => level.column

/-- Adds a token. -/
def push (l : Layout) (token : Token) : Layout :=
  { l with tokens := token :: l.tokens, count := l.count + 1 }

/-- Puts tokens behind the first `position` ones. -/
def insertAt (l : Layout) (position : Nat) (tokens : List Token) : Layout :=
  let behind := l.count - position
  { l with
    tokens := l.tokens.take behind ++ tokens.reverse ++ l.tokens.drop behind
    count := l.count + tokens.length }

/-- A token of `n` characters behind which a key may or may not start. -/
def pushMark (l : Layout) (token : Token) (n : Nat) (keyAllowed : Bool) : Layout :=
  { l.push token with cursor := l.cursor.advance n, keyAllowed }

/-! ## Possible keys -/

/-- Whether a possible key is too long or ends on another line than it starts. -/
def isStale (c : Cursor) (k : PossibleKey) : Bool :=
  k.start.line < c.line || k.start.index + maxKeyLength < c.index

/-- Forgets a possible key that is stale; one that is required is a fault. -/
def dropStale (c : Cursor) : Option PossibleKey → Except Fault (Option PossibleKey)
  | none => .ok none
  | some k =>
    if isStale c k then (if k.required then .error .keyWithoutColon else .ok none)
    else .ok (some k)

/-- Forgets the possible keys that are stale. -/
def dropStaleKeys (l : Layout) : Except Fault Layout := do
  let possibleKey ← dropStale l.cursor l.possibleKey
  let outerKeys ← l.outerKeys.mapM (dropStale l.cursor)
  pure { l with possibleKey, outerKeys }

/-- Forgets the possible key; one that is required is a fault. -/
def dropKey (l : Layout) : Except Fault Layout :=
  match l.possibleKey with
  | some k => if k.required then .error .keyWithoutColon else .ok { l with possibleKey := none }
  | none => .ok l

/-- Remembers that a key may start here. Where the innermost block collection starts, nothing else
may. -/
def noteKey (l : Layout) : Except Fault Layout :=
  if l.keyAllowed then do
    let required := !l.inFlow && l.levels.head? == some ⟨l.cursor.column, true⟩
    let l ← l.dropKey
    pure { l with possibleKey := some ⟨l.count, l.cursor, required⟩ }
  else .ok l

/-! ## Levels -/

/-- Opens a block collection at a column right of the innermost one, its first token behind the
first `position` ones. A level without a collection makes way for it. -/
def openBlock (l : Layout) (column position : Nat) (token : Token) : Layout :=
  if l.inFlow then l
  else
    let levels :=
      match l.levels with
      | ⟨n, false⟩ :: outer => if n ≤ column then outer else l.levels
      | levels => levels
    let l : Layout := { l with levels }
    if l.indent < column then
      { l.insertAt position [token] with levels := ⟨column, true⟩ :: levels }
    else l

/-- Leaves the levels right of a column and closes their block collections. -/
def closeBlocks (l : Layout) (column : Int) : Layout :=
  if l.inFlow then l
  else
    let (closed, levels) := l.levels.span fun level => column < level.column
    let n := closed.countP (·.isBlock)
    { l with
      tokens := List.replicate n .blockEnd ++ l.tokens, count := l.count + n, levels }

/-! ## Tokens -/

/-- A directive, or a mark of a document. -/
def readOutside (l : Layout) : Except Fault Layout := do
  let l ← (l.closeBlocks (-1)).dropKey
  match l.cursor.rest with
  | '%' :: _ =>
    let (token, c) ← readDirective (l.cursor.advance 1)
    pure { l.push token with cursor := c, keyAllowed := false }
  | '-' :: _ => pure (l.pushMark .documentStart 3 false)
  | _ => pure (l.pushMark .documentEnd 3 false)

/-- A node property or scalar, which may be the start of a key. -/
def readInline (l : Layout) (read : Cursor → Except Fault (Token × Bool × Cursor)) :
    Except Fault Layout := do
  let l ← l.noteKey
  let (token, keyAllowed, c) ← read l.cursor
  pure { l.push token with cursor := c, keyAllowed }

/-- An anchor or alias. -/
def readReference (l : Layout) (token : String → Token) : Except Fault Layout :=
  l.readInline fun c => do
    let (name, c) ← readAnchorName (c.advance 1)
    pure (token name, false, c)

/-- A tag. -/
def readTagged (l : Layout) : Except Fault Layout :=
  l.readInline fun c => do
    let (token, c) ← readTag l.inFlow c
    pure (token, false, c)

/-- Reads the tokens that are left, each with `read` after `skip` has come to it. -/
def readTokens (skip : Layout → Except Fault Layout)
    (read : Layout → Char → List Char → Except Fault Layout) (l : Layout) :
    Except Fault (List Token) :=
  match skip l with
  | .error e => .error e
  | .ok l' =>
    -- A token left of a block collection ends it.
    let l' := l'.closeBlocks l'.cursor.column
    match l'.cursor.rest with
    | [] =>
      match (l'.closeBlocks (-1)).dropKey with
      | .error e => .error e
      | .ok l => .ok l.tokens.reverse
    | ch :: rest =>
      match read l' ch rest with
      | .error e => .error e
      | .ok next =>
        if next.cursor.rest.length < l.cursor.rest.length then readTokens skip read next
        else .error .strayCharacter
termination_by l.cursor.rest.length

end Layout

end RequiredFields.Yaml
