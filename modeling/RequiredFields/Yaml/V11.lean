import RequiredFields.Yaml.Block
import RequiredFields.Yaml.Layout

/-!
# The tokens of version 1.1

A key ends on the line it starts on, in flow collections too, and a tab is a blank only where it
cannot be taken for indentation.
-/

namespace RequiredFields.Yaml.V11

open Layout

/-- Passes blanks, comments and line breaks in front of a token. Outside flow collections a new
line may start with a key. -/
def skipToToken (inFlow keyAllowed : Bool) (c : Cursor) : Bool × Cursor :=
  -- A tab counts as a blank only where it cannot be taken for indentation.
  let c' := (c.skipWhile fun ch => ch == ' ' || ((inFlow || !keyAllowed) && ch == '\t')).skipComment
  if c'.seesBreak then
    let next := c'.takeBreak.2
    if next.rest.length < c.rest.length then skipToToken inFlow (keyAllowed || !inFlow) next
    else (keyAllowed, c')
  else (keyAllowed, c')
termination_by c.rest.length

/-- Comes to the next token and forgets the keys that cannot reach it. -/
def skip (l : Layout) : Except Fault Layout :=
  let (keyAllowed, cursor) := skipToToken l.inFlow l.keyAllowed l.cursor
  { l with cursor, keyAllowed }.dropStaleKeys

/-- An opening bracket. -/
def openFlow (l : Layout) (token : Token) : Except Fault Layout := do
  let l ← l.noteKey
  pure { l.pushMark token 1 true with
    possibleKey := none, outerKeys := l.possibleKey :: l.outerKeys }

/-- A closing bracket. -/
def closeFlow (l : Layout) (token : Token) : Except Fault Layout := do
  let l ← l.dropKey
  let l := l.pushMark token 1 false
  match l.outerKeys with
  | [] => pure l
  | k :: outerKeys => pure { l with possibleKey := k, outerKeys }

/-- An indicator of a block collection, which opens one if it stands right of the innermost one. -/
def readBlockIndicator (l : Layout) (start token : Token) (keyAllowed : Bool) :
    Except Fault Layout := do
  if !l.inFlow && !l.keyAllowed then throw .misplacedIndicator
  let l ← (l.openBlock l.cursor.column l.count start).dropKey
  pure (l.pushMark token 1 keyAllowed)

/-- The colon in front of a value. Behind a possible key it makes it a key. -/
def readValueIndicator (l : Layout) : Except Fault Layout :=
  match l.possibleKey with
  | some k =>
    -- The mapping starts where the key does, so both tokens go in front of the key's own.
    let l := (l.insertAt k.position [.key]).openBlock k.start.column k.position .blockMappingStart
    .ok ({ l with possibleKey := none }.pushMark .value 1 false)
  | none =>
    if !l.inFlow && !l.keyAllowed then .error .misplacedIndicator
    else
      let keyAllowed := !l.inFlow
      .ok ((l.openBlock l.cursor.column l.count .blockMappingStart).pushMark .value 1 keyAllowed)

/-- A block scalar. -/
def readBlockScalar (l : Layout) (literal : Bool) : Except Fault Layout := do
  let l ← l.dropKey
  let (text, c) ← readBlock literal l.indent (l.cursor.advance 1)
  pure { l.push (.scalar (if literal then .literal else .folded) (.ofList text)) with
    cursor := c, keyAllowed := true }

/-- A quoted scalar. -/
def readQuotedScalar (l : Layout) (single : Bool) : Except Fault Layout :=
  l.readInline fun c => do
    let (text, c) ← readQuoted single 0 [] (c.advance 1)
    pure (.scalar .quoted (.ofList text), false, c)

/-- A plain scalar. -/
def readPlainScalar (l : Layout) : Except Fault Layout :=
  l.readInline fun c => do
    let (text, broken, c) ← readPlain l.inFlow (l.indent + 1).toNat [] {} c
    pure (.scalar .plain (.ofList text), broken, c)

/-- Characters that start no plain scalar. -/
def isIndicator (c : Char) : Bool :=
  isFlowIndicator c || c == '-' || c == '?' || c == ':' || c == '#' || c == '&' || c == '*' ||
    c == '!' || c == '|' || c == '>' || c == '\'' || c == '"' || c == '%' || c == '@' ||
    c.toNat == 0x60

/-- Reads one token, which starts with the character `ch` and goes on with `rest`. -/
def readToken (l : Layout) (ch : Char) (rest : List Char) : Except Fault Layout :=
  let wordEnds := l.cursor.version.endsWord rest
  if (l.cursor.column == 0 && ch == '%') || l.cursor.atDocumentMark then l.readOutside
  else if ch == '[' then openFlow l .flowSequenceStart
  else if ch == '\x7b' then openFlow l .flowMappingStart
  else if ch == ']' then closeFlow l .flowSequenceEnd
  else if ch == '\x7d' then closeFlow l .flowMappingEnd
  else if ch == ',' then do
    let l ← l.dropKey
    pure (l.pushMark .flowEntry 1 true)
  else if ch == '-' && wordEnds then
    readBlockIndicator l .blockSequenceStart .blockEntry true
  else if ch == '?' && (l.inFlow || wordEnds) then
    readBlockIndicator l .blockMappingStart .key (!l.inFlow)
  else if ch == ':' && (l.inFlow || wordEnds) then readValueIndicator l
  else if ch == '*' then l.readReference .alias
  else if ch == '&' then l.readReference .anchor
  else if ch == '!' then l.readTagged
  else if ch == '|' && !l.inFlow then readBlockScalar l true
  else if ch == '>' && !l.inFlow then readBlockScalar l false
  else if ch == '\'' then readQuotedScalar l true
  else if ch == '"' then readQuotedScalar l false
  else if (!isSpace ch && !isIndicator ch) || (ch == '-' && !rest.head?.any isSpace) ||
      (!l.inFlow && (ch == '?' || ch == ':') && !wordEnds) then
    readPlainScalar l
  else .error .strayCharacter

/-- The tokens of a text. -/
def tokensOf (text : String) : Except Fault (List Token) := do
  let cursor ← Cursor.ofText .v11 text.toList
  readTokens skip readToken { cursor }

end RequiredFields.Yaml.V11
