import RequiredFields.Yaml.Block
import RequiredFields.Yaml.Layout

/-!
# The tokens of version 1.2

What stands behind the indicators of a block collection has to be indented more than the collection,
brackets and quoted scalars included, and a tab in front of that column is refused. Inside brackets
a key may run over several lines, a colon needs no blank behind a key that ends with a bracket or a
quotation mark, and an entry of a sequence that is a pair becomes a mapping of its own.
-/

namespace RequiredFields.Yaml.V12

open Layout

/-- The deepest nesting of brackets. -/
def maxFlowDepth : Nat := 255

/-! ## Blanks -/

/-- Passes blanks, comments and line breaks in front of a token. A tab left of column `indent` may
stand only on a line without a token. -/
def skipToToken (inFlow : Bool) (indent : Int) (keyAllowed : Bool) (c : Cursor) :
    Except Fault (Bool × Cursor) :=
  let spaces := c.skipWhile (· == ' ')
  let c' := (c.skipWhile isSpace).skipComment
  if spaces.sees (· == '\t') && spaces.column < indent && !c'.atLineEnd then
    .error .tabIndentation
  else if c'.seesBreak then
    let next := c'.takeBreak.2
    if next.rest.length < c.rest.length then
      skipToToken inFlow indent (keyAllowed || !inFlow) next
    else .ok (keyAllowed, c')
  else .ok (keyAllowed, c')
termination_by c.rest.length

/-- Passes spaces, comments and line breaks. -/
def skipSpaces (c : Cursor) : Cursor :=
  let c' := (c.skipWhile (· == ' ')).skipComment
  if c'.seesBreak then
    let next := c'.takeBreak.2
    if next.rest.length < c.rest.length then skipSpaces next else c'
  else c'
termination_by c.rest.length

/-- Comes to the next token and, outside brackets, forgets the keys that cannot reach it. -/
def skip (l : Layout) : Except Fault Layout := do
  let (keyAllowed, cursor) ← skipToToken l.inFlow l.indent l.keyAllowed l.cursor
  let l := { l with cursor, keyAllowed }
  if l.inFlow then pure l else l.dropStaleKeys

/-! ## Levels -/

/-- Starts a level for what stands behind an indicator, one column right of its collection. -/
def indentInline (l : Layout) : Layout :=
  match l.levels with
  | ⟨column, true⟩ :: _ =>
    if l.inFlow then l else { l with levels := ⟨column + 1, false⟩ :: l.levels }
  | _ => l

/-- Leaves the levels that are no block collections. -/
def leaveInline (l : Layout) : Layout :=
  { l with levels := l.levels.dropWhile (!·.isBlock) }

/-! ## Flow collections -/

/-- Closes the pair in a flow sequence that was put into brackets. -/
def closePair (l : Layout) : Layout :=
  match l.pairs with
  | true :: pairs =>
    { l.push .flowMappingEnd with pairs := false :: pairs, mappingWritten := false }
  | _ => l

/-- An opening bracket. -/
def openFlow (l : Layout) (token : Token) : Except Fault Layout := do
  let l := indentInline (← l.noteKey)
  if maxFlowDepth ≤ l.outerKeys.length then throw .tooDeep
  let cursor ← (l.cursor.advance 1).skipLineTail
  let l :=
    if token = .flowMappingStart then { l with mappingWritten := true }
    else { l with pairs := false :: l.pairs }
  pure { l.push token with
    cursor, keyAllowed := true, possibleKey := none, outerKeys := l.possibleKey :: l.outerKeys }

/-- A closing bracket. -/
def closeFlow (l : Layout) (token : Token) : Except Fault Layout := do
  let l ← l.dropKey
  let l :=
    match l.outerKeys with
    | [] => l
    | possibleKey :: outerKeys => { l with possibleKey, outerKeys }
  let l :=
    if token = .flowSequenceEnd then
      let l := closePair l
      { l with pairs := l.pairs.drop 1 }
    else l
  let cursor ← (l.cursor.advance 1).skipLineTail
  let adjacentAt := if l.inFlow then cursor.index else l.adjacentAt
  pure { l.push token with cursor, adjacentAt, keyAllowed := false }

/-- The comma between entries. -/
def readFlowEntry (l : Layout) : Except Fault Layout := do
  let l := closePair (← l.dropKey)
  let cursor ← (l.cursor.advance 1).skipLineTail
  pure { l.push .flowEntry with cursor, keyAllowed := true }

/-! ## Indicators -/

/-- Whether a text starts with the hyphen of an entry. -/
def startsEntry (version : Version) : List Char → Bool
  | '-' :: rest => version.endsWord rest
  | _ => false

/-- The hyphen in front of an entry. -/
def readBlockEntry (l : Layout) : Except Fault Layout := do
  if l.inFlow || !l.keyAllowed then throw .misplacedIndicator
  let l := l.openBlock l.cursor.column l.count .blockSequenceStart
  let (blanks, _) := (l.cursor.advance 1).takeWhile isSpace
  let cursor ← (l.cursor.advance 1).skipLineTail
  -- An entry inside an entry is indented with spaces.
  if blanks.contains '\t' && startsEntry cursor.version cursor.rest then throw .tabIndentation
  let l := if cursor.seesBreak || cursor.sees isFlowIndicator then indentInline l else l
  let l ← l.dropKey
  pure { l.push .blockEntry with cursor, keyAllowed := true }

/-- The question mark in front of a key. -/
def readKeyIndicator (l : Layout) : Except Fault Layout := do
  if !l.inFlow && !l.keyAllowed then throw .misplacedIndicator
  let l := l.openBlock l.cursor.column l.count .blockMappingStart
  let l ← { l with mappingWritten := l.mappingWritten || l.inFlow }.dropKey
  let behind := l.cursor.advance 1
  let cursor := skipSpaces behind
  if !(behind.sees (· == ' ') || behind.seesBreak) || cursor.sees (· == '\t') then
    throw .tabIndentation
  pure { l.push .key with cursor, keyAllowed := !l.inFlow }

/-- The place of a value behind its colon. Tabs there do not stand for a space in front of what
could be an entry or a key. -/
def afterColon (c : Cursor) : Except Fault Cursor := do
  let behind := c.advance 1
  if !behind.sees (· == '\t') then return behind
  let (blanks, _) := behind.takeWhile isSpace
  let next ← behind.skipLineTail
  if !blanks.contains ' ' && next.sees isNameChar then throw .tabIndentation
  return next

/-- The colon in front of a value. Behind a possible key it makes it a key. -/
def readValueIndicator (l : Layout) : Except Fault Layout := do
  let cursor ← afterColon l.cursor
  -- A colon in a flow sequence makes a pair of its entry unless a mapping is already written there.
  let pair := !l.pairs.isEmpty && !l.mappingWritten
  let l := if pair then { l with pairs := true :: l.pairs.drop 1 } else l
  match l.possibleKey with
  | some k =>
    if pair && k.start.line < l.cursor.line then throw .misplacedIndicator
    let l := l.insertAt k.position (if pair then [.flowMappingStart, .key] else [.key])
    let l := indentInline (l.openBlock k.start.column k.position .blockMappingStart)
    pure { l.push .value with cursor, possibleKey := none, keyAllowed := false }
  | none =>
    if !l.inFlow && !l.keyAllowed then throw .misplacedIndicator
    let l := if pair then l.push .flowMappingStart else l
    let l := indentInline (l.openBlock l.cursor.column l.count .blockMappingStart)
    pure { l.push .value with cursor, keyAllowed := !l.inFlow }

/-! ## Scalars -/

/-- A block scalar. -/
def readBlockScalar (l : Layout) (literal : Bool) : Except Fault Layout := do
  let l := leaveInline (← l.noteKey)
  let (text, cursor) ← readBlock literal l.indent (l.cursor.advance 1)
  pure { l.push (.scalar (if literal then .literal else .folded) (.ofList text)) with
    cursor, keyAllowed := true }

/-- A quoted scalar. Behind it the line ends, a flow collection goes on, or it turns out to be a
key; outside brackets that has to be on one line. -/
def readQuotedScalar (l : Layout) (single : Bool) : Except Fault Layout := do
  let l ← l.noteKey
  let (text, c) ← readQuoted single l.indent.toNat [] (l.cursor.advance 1)
  let c ← c.skipLineTail
  let continued := l.inFlow && c.sees fun ch => ch == ',' || ch == ']' || ch == '\x7d'
  let isKey := c.sees (· == ':') && (l.inFlow || c.line = l.cursor.line)
  if !(c.atLineEnd || continued || isKey) then throw .trailingText
  let (keyAllowed, cursor) ← skipToToken l.inFlow l.indent false c
  pure { l.push (.scalar .quoted (.ofList text)) with
    cursor, keyAllowed, adjacentAt := cursor.index }

/-- A plain scalar. -/
def readPlainScalar (l : Layout) : Except Fault Layout := do
  let l := leaveInline (← l.noteKey)
  if l.inFlow && l.cursor.column ≤ l.indent then throw .badIndentation
  let (text, broken, cursor) ← readPlain l.inFlow (l.indent + 1).toNat [] {} l.cursor
  pure { l.push (.scalar .plain (.ofList text)) with cursor, keyAllowed := broken }

/-! ## Tokens -/

/-- A directive, or a mark of a document. Behind the mark that ends a document the line ends. -/
def readOutside (l : Layout) : Except Fault Layout := do
  let next ← l.readOutside
  if l.cursor.sees (· == '.') then
    let cursor ← next.cursor.skipLineTail
    if !cursor.atLineEnd then throw .trailingText
    pure { next with cursor }
  else pure next

/-- Whether a colon that `rest` follows is one in front of a value. -/
def isValueIndicator (l : Layout) (rest : List Char) : Bool :=
  l.cursor.version.endsWord rest ||
    (l.inFlow && (rest.head?.any isFlowIndicator || l.cursor.index = l.adjacentAt))

/-- Reads one token, which starts with the character `ch` and goes on with `rest`. -/
def readToken (l : Layout) (ch : Char) (rest : List Char) : Except Fault Layout :=
  let wordEnds := l.cursor.version.endsWord rest
  if (l.cursor.column == 0 && ch == '%') || l.cursor.atDocumentMark then readOutside l
  else if l.cursor.column < l.indent then .error .badIndentation
  else if ch == '[' then openFlow l .flowSequenceStart
  else if ch == '\x7b' then openFlow l .flowMappingStart
  else if ch == ']' then closeFlow l .flowSequenceEnd
  else if ch == '\x7d' then closeFlow l .flowMappingEnd
  else if ch == ',' then readFlowEntry l
  else if ch == '-' && wordEnds then readBlockEntry l
  else if ch == '?' && wordEnds then readKeyIndicator l
  else if ch == ':' && isValueIndicator l rest then readValueIndicator l
  else if ch == '*' then l.readReference .alias
  else if ch == '&' then l.readReference .anchor
  else if ch == '!' then l.readTagged
  else if ch == '|' && !l.inFlow then readBlockScalar l true
  else if ch == '>' && !l.inFlow then readBlockScalar l false
  else if ch == '\'' then readQuotedScalar l true
  else if ch == '"' then readQuotedScalar l false
  else if ch == '%' || ch == '@' || ch.toNat == 0x60 then .error .strayCharacter
  else readPlainScalar l

/-- The tokens of a text. -/
def tokensOf (text : String) : Except Fault (List Token) := do
  let cursor ← Cursor.ofText .v12 text.toList
  readTokens skip readToken { cursor }

end RequiredFields.Yaml.V12
