import RequiredFields.Yaml.V11
import RequiredFields.Yaml.V12

/-!
# The nodes of a document

A document is a tree of scalars, sequences and mappings. Aliases are replaced by the nodes they
refer to; one inside the very collection it refers to is left open.
-/

namespace RequiredFields.Yaml

/-- A node of a document. -/
inductive Node where
  /-- A scalar, with its tag if one is written. -/
  | scalar (tag : Option Tag) (style : Style) (text : String)
  /-- A sequence. -/
  | sequence (items : List Node)
  /-- A mapping, its entries in the order of the text. -/
  | mapping (entries : List (Node × Node))
  /-- An alias to a collection that it is part of. -/
  | openAlias
  deriving Repr, Inhabited

/-- The scalar that stands where nothing is written. -/
def Node.empty : Node := .scalar none .plain ""

/-- An anchor, its place counted by the tokens left there, and its node once that is complete. -/
structure Anchor where
  /-- The name. -/
  name : String
  /-- The number of tokens left where the anchor stands. -/
  place : Nat
  /-- The node. -/
  node : Node

/-- What is known while a document is read. -/
structure Progress where
  /-- The version that the document is read by. -/
  version : Version
  /-- The tokens that are left. -/
  tokens : List Token
  /-- The anchors so far, the last one first. -/
  anchors : List Anchor := []
  /-- What the handles of tags stand for. -/
  handles : List (String × String) := []

/-- A reader of nodes. -/
abbrev Reading (α : Type) := StateT Progress (Except Fault) α

namespace Reading

/-- The next token. -/
def peek : Reading (Option Token) := do
  return (← get).tokens.head?

/-- Whether the next token is the given one. -/
def sees (token : Token) : Reading Bool := do
  return (← peek) == some token

/-- Passes the next token. -/
def skip : Reading Unit :=
  modify fun p => { p with tokens := p.tokens.drop 1 }

/-- Refuses the token at this place. -/
def unexpected {α : Type} : Reading α :=
  throw .unexpectedToken

/-- The tag that a handle and a suffix write. -/
def resolveTag (handle suffix : String) : Reading Tag := do
  match (← get).handles.lookup handle with
  | some stem => return ⟨stem, suffix⟩
  | none => throw .badTag

/-- The anchor and the tag in front of a node, in either order. -/
def properties : Reading (Option String × Option Tag) := do
  match ← peek with
  | some (.anchor name) =>
    skip
    match ← peek with
    | some (.tag handle suffix) =>
      skip
      return (some name, some (← resolveTag handle suffix))
    | _ => return (some name, none)
  | some (.tag handle suffix) =>
    skip
    match ← peek with
    | some (.anchor name) =>
      skip
      return (some name, some (← resolveTag handle suffix))
    | _ => return (none, some (← resolveTag handle suffix))
  | _ => return (none, none)

/-- Declares an anchor whose node is still to be read; the answer is its place. -/
def declare (name : Option String) : Reading Nat := do
  let p ← get
  let place := p.tokens.length
  match name with
  | none => pure ()
  | some name => set { p with anchors := ⟨name, place, .openAlias⟩ :: p.anchors }
  return place

/-- Gives the anchor at a place its node. -/
def complete (name : Option String) (place : Nat) (node : Node) : Reading Unit := do
  if name.isSome then
    modify fun p => { p with
      anchors := p.anchors.map fun a => if a.place == place then { a with node } else a }

/-- The node that an alias refers to. -/
def referred (name : String) : Reading Node := do
  match (← get).anchors.find? (·.name == name) with
  | some a => return a.node
  | none => throw .unknownAlias

/-- Lets an entry start with its value, as version 1.2 does. -/
def keyMayBeMissing : Reading Unit := do
  if (← get).version = .v11 then unexpected

/-- Whether the next token can start a node, given the tokens that cannot. -/
def startsNode (others : List Token) : Reading Bool := do
  match ← peek with
  | none => return true
  | some token => return !others.contains token

mutual

/-- A node. Block collections are read where `block` says so, and sequences without indentation
where `indentless` says so. -/
def node (block indentless : Bool) : Nat → Reading Node
  | 0 => unexpected
  | fuel + 1 => do
    match ← peek with
    | some (.alias name) =>
      skip
      referred name
    | _ =>
      -- The anchor is declared before its node is read, which may refer to it.
      let (anchor, tag) ← properties
      let place ← declare anchor
      let found ←
        match ← peek with
        | some (.scalar style text) => do
          skip
          pure (.scalar tag style text)
        | some .flowSequenceStart => do
          skip
          pure (.sequence (← flowSequence true fuel))
        | some .flowMappingStart => do
          skip
          pure (.mapping (← flowMapping true fuel))
        | some .blockSequenceStart => do
          if !block then unexpected
          skip
          pure (.sequence (← blockSequence fuel))
        | some .blockMappingStart => do
          if !block then unexpected
          skip
          pure (.mapping (← blockMapping fuel))
        | some .blockEntry => do
          if indentless then pure (.sequence (← indentlessSequence fuel))
          else if anchor.isSome || tag.isSome then pure (.scalar tag .plain "")
          else unexpected
        | _ => do
          if anchor.isSome || tag.isSome then pure (.scalar tag .plain "") else unexpected
      complete anchor place found
      return found

/-- A node, or nothing written in front of one of the given tokens. -/
def nodeUnless (others : List Token) (block indentless : Bool) : Nat → Reading Node
  | 0 => unexpected
  | fuel + 1 => do
    if ← startsNode others then node block indentless fuel else pure .empty

/-- The entries of a block sequence, up to its end. -/
def blockSequence : Nat → Reading (List Node)
  | 0 => unexpected
  | fuel + 1 => do
    match ← peek with
    | some .blockEntry =>
      skip
      let item ← nodeUnless [.blockEntry, .blockEnd] true false fuel
      return item :: (← blockSequence fuel)
    | some .blockEnd =>
      skip
      return []
    | _ => unexpected

/-- The entries of a sequence that is not indented, up to the first token that is none. -/
def indentlessSequence : Nat → Reading (List Node)
  | 0 => unexpected
  | fuel + 1 => do
    if ← sees .blockEntry then
      skip
      let item ← nodeUnless [.blockEntry, .key, .value, .blockEnd] true false fuel
      return item :: (← indentlessSequence fuel)
    else return []

/-- The entries of a block mapping, up to its end. -/
def blockMapping : Nat → Reading (List (Node × Node))
  | 0 => unexpected
  | fuel + 1 => do
    match ← peek with
    | some .key =>
      skip
      let key ← nodeUnless [.key, .value, .blockEnd] true true fuel
      let value ← valueUnless [.key, .value, .blockEnd] true fuel
      return (key, value) :: (← blockMapping fuel)
    | some .value =>
      keyMayBeMissing
      let value ← valueUnless [.key, .value, .blockEnd] true fuel
      return (.empty, value) :: (← blockMapping fuel)
    | some .blockEnd =>
      skip
      return []
    | _ => unexpected

/-- The value behind a colon, or nothing where there is no colon. -/
def valueUnless (others : List Token) (block : Bool) : Nat → Reading Node
  | 0 => unexpected
  | fuel + 1 => do
    if ← sees .value then
      skip
      nodeUnless others block block fuel
    else pure .empty

/-- The entries of a flow sequence, up to its end. An entry with a key is a mapping of its own. -/
def flowSequence (first : Bool) : Nat → Reading (List Node)
  | 0 => unexpected
  | fuel + 1 => do
    if ← sees .flowSequenceEnd then
      skip
      return []
    if !first then
      if ← sees .flowEntry then skip else unexpected
    match ← peek with
    | some .flowSequenceEnd =>
      skip
      return []
    | some .key =>
      skip
      let key ← flowPairKey fuel
      let value ← valueUnless [.flowEntry, .flowSequenceEnd] false fuel
      return .mapping [(key, value)] :: (← flowSequence false fuel)
    | _ =>
      let item ← node false false fuel
      return item :: (← flowSequence false fuel)

/-- The key of a pair inside a flow sequence. Where it is empty, the token behind it is passed. -/
def flowPairKey : Nat → Reading Node
  | 0 => unexpected
  | fuel + 1 => do
    if ← startsNode [.value, .flowEntry, .flowSequenceEnd] then node false false fuel
    else
      skip
      pure .empty

/-- The entries of a flow mapping, up to its end. -/
def flowMapping (first : Bool) : Nat → Reading (List (Node × Node))
  | 0 => unexpected
  | fuel + 1 => do
    if ← sees .flowMappingEnd then
      skip
      return []
    if !first then
      if ← sees .flowEntry then skip else unexpected
    match ← peek with
    | some .flowMappingEnd =>
      skip
      return []
    | some .key =>
      skip
      let key ← nodeUnless [.value, .flowEntry, .flowMappingEnd] false false fuel
      let value ← valueUnless [.flowEntry, .flowMappingEnd] false fuel
      return (key, value) :: (← flowMapping false fuel)
    | some .value =>
      keyMayBeMissing
      let value ← valueUnless [.flowEntry, .flowMappingEnd] false fuel
      return (.empty, value) :: (← flowMapping false fuel)
    | _ =>
      let key ← node false false fuel
      return (key, .empty) :: (← flowMapping false fuel)

end

/-! ## Documents -/

/-- The handles that are declared without a directive. A verbatim tag has an empty one. -/
def standardHandles : List (String × String) :=
  [("", ""), ("!", "!"), ("!!", standardStem)]

/-- The directives in front of a document: whether the version was given, and the handles declared
so far. In version 1.2 a directive takes the place of those before it. -/
def directives (version : Version) (versioned : Bool) (handles : List (String × String)) :
    List Token → Except Fault (List (String × String) × List Token)
  | .version major minor :: tokens =>
    if versioned then .error .badDirective
    else
      match version with
      | .v11 =>
        if major = 1 ∧ (minor = 1 ∨ minor = 2) then directives version true handles tokens
        else .error .badDirective
      | .v12 => directives version true [] tokens
  | .tagDirective handle stem :: tokens =>
    match version with
    | .v11 =>
      if (handles.lookup handle).isSome then .error .badDirective
      else directives version versioned ((handle, stem) :: handles) tokens
    | .v12 => directives version versioned [(handle, stem)] tokens
  | tokens => .ok (handles, tokens)

/-- The root of a document and the tokens behind it. -/
def documentBody (version : Version) (handles : List (String × String)) (tokens : List Token) :
    Except Fault (Node × List Token) := do
  let (root, p) ← (node true false (4 * tokens.length + 4)).run { version, tokens, handles }
  pure (root, p.tokens)

/-- Whether no document follows a mark: the text ends there, or another mark or a directive
stands there. -/
def endsDocument : List Token → Bool
  | [] => true
  | .version .. :: _ | .tagDirective .. :: _ | .documentStart :: _ | .documentEnd :: _ => true
  | _ => false

/-- The document that the tokens start with, and the tokens behind it; none when they end. Only the
`first` document needs no mark in front of it. -/
def nextDocument? (version : Version) (first : Bool) (tokens : List Token) :
    Except Fault (Option (Node × List Token)) := do
  let tokens :=
    if first && version = .v11 then tokens else tokens.dropWhile (· == .documentEnd)
  if tokens.isEmpty then return none
  -- A document without a mark has no directives either.
  if first && !endsDocument tokens then
    return some (← documentBody version standardHandles tokens)
  let (declared, tokens) ← directives version false [] tokens
  let handles := declared ++ standardHandles
  match tokens with
  | .documentStart :: tokens =>
    if endsDocument tokens then return some (.empty, tokens)
    else return some (← documentBody version handles tokens)
  | _ => throw .unexpectedToken

end Reading

/-- The tokens of a text. -/
def tokensOf (version : Version) (text : String) : Except Fault (List Token) :=
  match version with
  | .v11 => V11.tokensOf text
  | .v12 => V12.tokensOf text

/-- The root of the only document of a text; none when the text has no document. -/
def documentOf? (version : Version) (text : String) : Except Fault (Option Node) := do
  let tokens ← tokensOf version text
  match ← Reading.nextDocument? version true tokens with
  | none => return none
  | some (root, tokens) =>
    let tokens :=
      match tokens with
      | .documentEnd :: tokens => tokens
      | tokens => tokens
    match ← Reading.nextDocument? version false tokens with
    | none => return some root
    | some _ => throw .severalDocuments

end RequiredFields.Yaml
