import RequiredFields.Number.Digit
import RequiredFields.Yaml.Cursor

/-!
# Plain and quoted scalars

Reading the scalars that run on from line to line. Between their words a single line break is folded
to a blank, and of several breaks the first is dropped.
-/

namespace RequiredFields.Yaml

/-! ## Gaps -/

/-- Blanks and line breaks between two words of a scalar. -/
structure Gap where
  /-- The blanks, as long as no line break was met. -/
  blanks : List Char := []
  /-- Whether a line break was met. -/
  broken : Bool := false
  /-- The first line break; empty when an escaped line break stands in its place. -/
  first : List Char := []
  /-- The line breaks after the first. -/
  later : List Char := []

/-- What stands for a line break and those after it. -/
def foldBreaks (first later : List Char) : List Char :=
  if first.head? == some '\n' then (if later.isEmpty then [' '] else later) else first ++ later

/-- What a gap stands for when a word follows. -/
def Gap.fold (g : Gap) : List Char :=
  if g.broken then foldBreaks g.first g.later else g.blanks

/-- Reads a gap to its end. A tab behind a line break and left of column `indent` is refused, unless
`tabbed` allows it and its line has no words. -/
def readGap (tabbed : Bool) (indent : Nat) (g : Gap) (c : Cursor) :
    Except Fault (Gap × Cursor) :=
  if c.sees isSpace then
    if g.broken && c.column < indent && c.sees (· == '\t') then
      let next := (c.skipWhile isSpace).skipComment
      if !tabbed || !next.atLineEnd then .error .tabIndentation
      else if next.rest.length < c.rest.length then readGap tabbed indent g next
      else .ok (g, c)
    else
      let next := c.advance 1
      let blanks := if g.broken then g.blanks else g.blanks ++ c.rest.take 1
      if next.rest.length < c.rest.length then readGap tabbed indent { g with blanks } next
      else .ok (g, c)
  else if c.seesBreak then
    let (b, next) := c.takeBreak
    if next.rest.length < c.rest.length then
      readGap tabbed indent
        (if g.broken then { g with later := g.later ++ b }
          else { g with blanks := [], broken := true, first := b })
        next
    else .ok (g, c)
  else .ok (g, c)
termination_by c.rest.length

/-! ## Plain scalars -/

/-- The characters of a plain scalar up to a blank, a line break or an indicator that ends it. In a
flow collection version 1.1 refuses a colon in front of some indicators that version 1.2 takes for
the end of a key. -/
def plainWord (version : Version) (inFlow : Bool) : List Char → Except Fault (List Char)
  | [] => .ok []
  | c :: rest =>
    if isSpace c || version.isBreak c || (inFlow && isFlowIndicator c) then .ok []
    else if c == ':' && version = .v11 && inFlow &&
        rest.head?.any (fun d => d == '?' || isFlowIndicator d) then
      .error .strayCharacter
    else if c == ':' && (version.endsWord rest || (inFlow && rest.head?.any isFlowIndicator)) then
      .ok []
    else (plainWord version inFlow rest).map (c :: ·)

/-- Whether a hyphen stands right in front of a bracket or a comma. -/
def startsWithLoneHyphen : List Char → Bool
  | '-' :: c :: _ => isFlowIndicator c
  | _ => false

/-- Reads a plain scalar whose lines after the first start at column `indent` or right of it. The
answer says also whether a line break was passed behind the last word. -/
def readPlain (inFlow : Bool) (indent : Nat) (text : List Char) (g : Gap) (c : Cursor) :
    Except Fault (List Char × Bool × Cursor) :=
  if c.atDocumentMark || c.sees (· == '#') then .ok (text, g.broken, c)
  else if c.version = .v12 && inFlow && startsWithLoneHyphen c.rest then .error .strayCharacter
  else
    match plainWord c.version inFlow c.rest with
    | .error e => .error e
    | .ok word =>
      let behind := c.advance word.length
      -- A gap is written out only when a word follows it, so blanks at the end are dropped.
      let text := if word.isEmpty then text else text ++ g.fold ++ word
      let g := if word.isEmpty then g else {}
      if behind.sees isSpace || behind.seesBreak then
        match readGap (c.version = .v12) indent {} behind with
        | .error e => .error e
        | .ok (g, next) =>
          if !inFlow && next.column < indent then .ok (text, g.broken, next)
          else if next.rest.length < c.rest.length then readPlain inFlow indent text g next
          else .ok (text, g.broken, next)
      else .ok (text, g.broken, behind)
termination_by c.rest.length

/-! ## Quoted scalars -/

/-- The character that a letter behind a backslash stands for. -/
def escapeLetter? (c : Char) : Option Char :=
  match c with
  | '0' => some '\x00'
  | 'a' => some '\x07'
  | 'b' => some '\x08'
  | 't' | '\t' => some '\t'
  | 'n' => some '\n'
  | 'v' => some '\x0b'
  | 'f' => some '\x0c'
  | 'r' => some '\r'
  | 'e' => some '\x1b'
  | ' ' | '"' | '/' | '\\' => some c
  | 'N' => some '\u0085'
  | '_' => some '\u00a0'
  | 'L' => some '\u2028'
  | 'P' => some '\u2029'
  | _ => none

/-- The number of hexadecimal digits of a numeric escape. -/
def escapeLength? (c : Char) : Option Nat :=
  match c with
  | 'x' => some 2
  | 'u' => some 4
  | 'U' => some 8
  | _ => none

/-- The number that `count` hexadecimal digits write, added behind the digits `n`. -/
def hexNumber? : Nat → Nat → List Char → Option Nat
  | 0, n, _ => some n
  | _ + 1, _, [] => none
  | count + 1, n, c :: rest => (Digit.hex? c).bind fun d => hexNumber? count (16 * n + d) rest

/-- The character of a double-quoted scalar that an escape stands for, behind the backslash, and the
length of the escape. -/
def readEscape (text : List Char) : Except Fault (Char × Nat) :=
  match text with
  | [] => .error .badEscape
  | c :: rest =>
    match escapeLetter? c with
    | some ch => .ok (ch, 1)
    | none =>
      match escapeLength? c with
      | none => .error .badEscape
      | some count =>
        match hexNumber? count 0 rest with
        | none => .error .badEscape
        | some n =>
          if (0xD800 ≤ n ∧ n ≤ 0xDFFF) ∨ 0x10FFFF < n then .error .badEscape
          else .ok (Char.ofNat n, count + 1)

/-- The characters of a quoted scalar up to a blank, a line break or its closing quotation mark. The
answer says also whether it ended with an escaped line break. -/
def quotedWord (single : Bool) (c : Cursor) : Except Fault (List Char × Bool × Cursor) :=
  let step (n : Nat) (next : Cursor) (chars : List Char) :
      Except Fault (List Char × Bool × Cursor) :=
    if next.rest.length < c.rest.length ∧ 0 < n then
      (quotedWord single next).map fun (word, broken, c) => (chars ++ word, broken, c)
    else .ok ([], false, c)
  match c.rest with
  | [] => .ok ([], false, c)
  | ch :: rest =>
    if isSpace ch || c.version.isBreak ch then .ok ([], false, c)
    else if single then
      match ch, rest with
      | '\'', '\'' :: _ => step 2 (c.advance 2) ['\'']
      | '\'', _ => .ok ([], false, c)
      | _, _ => step 1 (c.advance 1) [ch]
    else if ch == '"' then .ok ([], false, c)
    else if ch == '\\' then
      if rest.head?.any c.version.isBreak then .ok ([], true, (c.advance 1).takeBreak.2)
      else
        match readEscape rest with
        | .error e => .error e
        | .ok (ch, n) => step n (c.advance (n + 1)) [ch]
    else step 1 (c.advance 1) [ch]
termination_by c.rest.length

/-- Reads a quoted scalar behind its opening quotation mark, whose lines after the first start at
column `indent` or right of it. -/
def readQuoted (single : Bool) (indent : Nat) (text : List Char) (c : Cursor) :
    Except Fault (List Char × Cursor) :=
  if c.atDocumentMark || c.atEnd then .error .unclosedQuote
  else if c.column < indent then .error .badIndentation
  else
    match quotedWord single c with
    | .error e => .error e
    | .ok (word, broken, behind) =>
      let text := text ++ word
      if behind.sees (· == if single then '\'' else '"') then .ok (text, behind.advance 1)
      else
        match readGap false indent { broken } behind with
        | .error e => .error e
        | .ok (g, next) =>
          if next.rest.length < c.rest.length then
            readQuoted single indent (text ++ g.fold) next
          else .error .unclosedQuote
termination_by c.rest.length

end RequiredFields.Yaml
