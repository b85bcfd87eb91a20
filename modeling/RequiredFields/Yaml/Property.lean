import RequiredFields.Number.Digit
import RequiredFields.Yaml.Cursor
import RequiredFields.Yaml.Token

/-!
# Anchors, tags and directives

What can stand in front of a node or a document.
-/

namespace RequiredFields.Yaml

/-! ## Anchors -/

/-- The characters of the name of an anchor. -/
def isAnchorChar (version : Version) (c : Char) : Bool :=
  match version with
  | .v11 => isNameChar c
  | .v12 => !isSpace c && !version.isBreak c && c != '\uFEFF' && !isFlowIndicator c

/-- Whether the name of an anchor may end here. In version 1.2 anything that is no part of it ends
it. -/
def endsAnchor (c : Cursor) : Bool :=
  c.version = .v12 || c.atWordEnd || c.sees fun ch =>
    ch == '?' || ch == ':' || ch == ',' || ch == ']' || ch == '\x7d' || ch == '%' || ch == '@' ||
      ch.toNat == 0x60

/-- The name of an anchor or alias, behind its indicator. -/
def readAnchorName (c : Cursor) : Except Fault (String × Cursor) :=
  let (name, c) := c.takeWhile (isAnchorChar c.version)
  if name.isEmpty || !endsAnchor c then .error .badAnchor else .ok (.ofList name, c)

/-! ## Tags -/

/-- The handle of a tag: an exclamation mark, and a name with another one behind it. The second mark
may be missing where the handle turns out to be the start of a suffix. -/
def readTagHandle (declared : Bool) (c : Cursor) : Except Fault (List Char × Cursor) :=
  if !c.sees (· == '!') then .error .badTag
  else
    let (name, c) := (c.advance 1).takeWhile isNameChar
    if c.sees (· == '!') then .ok ('!' :: name ++ ['!'], c.advance 1)
    else if declared && !name.isEmpty then .error .badTag
    else .ok ('!' :: name, c)

/-- Characters of a tag as they stand; a `verbatim` tag may have some more. -/
def isTagChar (version : Version) (verbatim : Bool) (c : Char) : Bool :=
  isNameChar c || c == ';' || c == '/' || c == '?' || c == ':' || c == '@' || c == '&' ||
    c == '=' || c == '+' || c == '$' || c == '.' || c == '~' || c == '*' || c == '\'' ||
    c == '(' || c == ')' || (verbatim && (c == ',' || c == '[' || c == ']')) ||
    match version with
    | .v11 => c == '!'
    | .v12 => c == '#' || (verbatim && c == '!')

/-- An octet written as a percent sign and two hexadecimal digits, and the rest. -/
def readOctet? : List Char → Option (Nat × List Char)
  | '%' :: a :: b :: rest =>
    match Digit.hex? a, Digit.hex? b with
    | some a, some b => some (16 * a + b, rest)
    | _, _ => none
  | _ => none

/-- The later octets of a character written in octets, put behind the number so far. Version 1.2
takes all bits of an octet, version 1.1 those that number the character. -/
def readTailOctets? (version : Version) : Nat → Nat → List Char → Option (Nat × List Char)
  | 0, n, rest => some (n, rest)
  | count + 1, n, text =>
    match readOctet? text with
    | some (b, rest) =>
      if b / 64 = 2 then
        readTailOctets? version count
          (match version with
            | .v11 => 64 * n + b % 64
            | .v12 => 256 * n + b)
          rest
      else none
    | none => none

/-- A character written in octets. -/
def readOctets? (version : Version) (text : List Char) : Option (Char × List Char) :=
  match readOctet? text with
  | none => none
  | some (b, rest) =>
    let tails (count bits : Nat) : Option (Char × List Char) :=
      match version with
      | .v11 => (readTailOctets? version count bits rest).map fun (n, rest) => (Char.ofNat n, rest)
      | .v12 => (readTailOctets? version count b rest).bind fun (n, rest) =>
          if n.isValidChar then some (Char.ofNat n, rest) else none
    if b < 0x80 then some (Char.ofNat b, rest)
    else if b / 32 = 6 then tails 1 (b % 32)
    else if b / 16 = 14 then tails 2 (b % 16)
    else if b / 8 = 30 then tails 3 (b % 8)
    else none

/-- The characters of a tag, octets resolved. -/
def readTagChars (verbatim : Bool) (c : Cursor) : Except Fault (List Char × Cursor) :=
  match c.rest with
  | [] => .ok ([], c)
  | ch :: rest =>
    if ch == '%' then
      match readOctets? c.version (ch :: rest) with
      | none => .error .badTag
      | some (ch, after) =>
        let next := c.advance (c.rest.length - after.length)
        if next.rest.length < c.rest.length then
          (readTagChars verbatim next).map fun (chars, c) => (ch :: chars, c)
        else .error .badTag
    else if isTagChar c.version verbatim ch then
      let next := c.advance 1
      if next.rest.length < c.rest.length then
        (readTagChars verbatim next).map fun (chars, c) => (ch :: chars, c)
      else .ok ([], c)
    else .ok ([], c)
termination_by c.rest.length

/-- Whether a tag may end here. -/
def endsTag (inFlow : Bool) (c : Cursor) : Bool :=
  c.atWordEnd || (inFlow &&
    match c.version with
    | .v11 => c.sees (· == ',')
    | .v12 => c.sees isFlowIndicator)

/-- A tag: verbatim between angle brackets, or a handle and a suffix. -/
def readTag (inFlow : Bool) (c : Cursor) : Except Fault (Token × Cursor) := do
  let (handle, suffix, c) ←
    match c.rest with
    | '!' :: '<' :: _ => do
      let (chars, c) ← readTagChars true (c.advance 2)
      if (c.version = .v11 && chars.isEmpty) || !c.sees (· == '>') then throw .badTag
      pure ([], chars, c.advance 1)
    | _ => do
      let (handle, c) ← readTagHandle false c
      let (chars, c) ← readTagChars false c
      if 1 < handle.length && handle.getLast? == some '!' then
        if chars.isEmpty then throw .badTag
        pure (handle, chars, c)
      else
        let suffix := handle.drop 1 ++ chars
        pure (if suffix.isEmpty then ([], ['!'], c) else (['!'], suffix, c))
  if endsTag inFlow c then .ok (.tag (.ofList handle) (.ofList suffix), c) else .error .badTag

/-! ## Directives -/

/-- A number of a version. -/
def readVersionNumber (c : Cursor) : Except Fault (Nat × Cursor) :=
  let (digits, c) := c.takeWhile Char.isDigit
  if digits.isEmpty || 9 < digits.length then .error .badDirective
  else .ok (Digit.natOf digits, c)

/-- The stem that a handle is declared for. In version 1.2 it starts with an exclamation mark or
with a character that any tag may have. -/
def readStem (c : Cursor) : Except Fault (List Char × Cursor) := do
  let starts := c.version = .v11 || c.sees fun ch =>
    ch == '!' || ch == '%' || isTagChar c.version false ch
  let (stem, c) ← readTagChars true c
  if !starts || stem.isEmpty || !c.atWordEnd then throw .badDirective
  pure (stem, c)

/-- What follows the name of a directive. An unknown directive is refused by version 1.1; for
version 1.2 it declares nothing. -/
def readDirectiveBody (name : String) (c : Cursor) : Except Fault (Token × Cursor) :=
  if name = "YAML" then do
    let (major, c) ← readVersionNumber (c.skipWhile isSpace)
    if !c.sees (· == '.') then throw .badDirective
    let (minor, c) ← readVersionNumber (c.advance 1)
    pure (.version major minor, c)
  else if name = "TAG" then do
    let (handle, c) ← readTagHandle true (c.skipWhile isSpace)
    if c.version = .v11 && !c.sees isSpace then throw .badDirective
    let (stem, c) ← readStem (c.skipWhile isSpace)
    pure (.tagDirective (.ofList handle) (.ofList stem), c)
  else
    match c.version with
    | .v11 => .error .badDirective
    | .v12 => .ok (.tagDirective "" "", c.skipWhile fun ch => !c.version.isBreak ch)

/-- A directive behind its percent sign, with the rest of its line. -/
def readDirective (c : Cursor) : Except Fault (Token × Cursor) := do
  let (name, c) := c.takeWhile isNameChar
  if name.isEmpty || !c.atWordEnd then throw .badDirective
  let (token, c) ← readDirectiveBody (.ofList name) c
  let c ← c.skipLineTail
  if !c.atLineEnd then throw .badDirective
  pure (token, c.takeBreak.2)

end RequiredFields.Yaml
