import RequiredFields.Yaml.Fault

/-!
# A place in a YAML text

The text that is left, and the line and column that it starts at. The two versions of the format
agree on blanks, but not on what ends a line.
-/

namespace RequiredFields.Yaml

/-! ## Characters -/

/-- The versions of the format that are told apart. -/
inductive Version where
  /-- Version 1.1, with more line ends and stricter about characters. -/
  | v11
  /-- Version 1.2, stricter about indentation. -/
  | v12
  deriving DecidableEq, Repr

/-- Characters that end a line: line feed and carriage return, in version 1.1 also the next line,
the line separator and the paragraph separator. -/
def Version.isBreak : Version → Char → Bool
  | v11, c => c == '\n' || c == '\r' || c == '\u0085' || c == '\u2028' || c == '\u2029'
  | v12, c => c == '\n' || c == '\r'

/-- Blanks within a line. -/
def isSpace (c : Char) : Bool :=
  c == ' ' || c == '\t'

/-- Whether a text ends, or goes on with a blank or a new line. -/
def Version.endsWord (version : Version) : List Char → Bool
  | [] => true
  | c :: _ => isSpace c || version.isBreak c

/-- Letters, digits, the hyphen and the low line: the characters of names. -/
def isNameChar (c : Char) : Bool :=
  c.isAlphanum || c == '-' || c == '_'

/-- The brackets and the comma, which structure flow collections. -/
def isFlowIndicator (c : Char) : Bool :=
  c == ',' || c == '[' || c == ']' || c == '\x7b' || c == '\x7d'

/-! ## Places -/

/-- A place in a text. -/
structure Cursor where
  /-- The version that the text is read by. -/
  version : Version
  /-- The text that is left. -/
  rest : List Char
  /-- The number of characters before it. -/
  index : Nat := 0
  /-- The number of lines before it. -/
  line : Nat := 0
  /-- The number of characters before it in its line. -/
  column : Nat := 0

namespace Cursor

/-- The next character. -/
def peek? (c : Cursor) : Option Char :=
  c.rest.head?

/-- Whether the text is read to its end. -/
def atEnd (c : Cursor) : Bool :=
  c.rest.isEmpty

/-- Whether the next character satisfies `p`. -/
def sees (c : Cursor) (p : Char → Bool) : Bool :=
  c.rest.head?.any p

/-- Whether a line ends here with a break. -/
def seesBreak (c : Cursor) : Bool :=
  c.sees c.version.isBreak

/-- Whether a line ends here, or the text. -/
def atLineEnd (c : Cursor) : Bool :=
  c.atEnd || c.seesBreak

/-- Whether a word ends here. -/
def atWordEnd (c : Cursor) : Bool :=
  c.version.endsWord c.rest

/-- Passes `n` characters of one line. -/
def advance (c : Cursor) (n : Nat) : Cursor :=
  { c with rest := c.rest.drop n, index := c.index + n, column := c.column + n }

/-- Takes the characters of one line that satisfy `p`. -/
def takeWhile (p : Char → Bool) (c : Cursor) : List Char × Cursor :=
  let taken := c.rest.takeWhile p
  (taken, c.advance taken.length)

/-- Passes the characters of one line that satisfy `p`. -/
def skipWhile (p : Char → Bool) (c : Cursor) : Cursor :=
  (c.takeWhile p).2

/-- The cursor at the start of the next line, `n` characters on. -/
def nextLine (c : Cursor) (n : Nat) : Cursor :=
  { c with rest := c.rest.drop n, index := c.index + n, line := c.line + 1, column := 0 }

/-- Takes the end of a line, if the line ends here. A line or paragraph separator is kept as it is,
any other end is one line feed. -/
def takeBreak (c : Cursor) : List Char × Cursor :=
  match c.rest with
  | '\r' :: '\n' :: _ => (['\n'], c.nextLine 2)
  | ch :: _ =>
    if c.version.isBreak ch then
      ([if ch == '\u2028' || ch == '\u2029' then ch else '\n'], c.nextLine 1)
    else ([], c)
  | [] => ([], c)

/-- Passes a comment up to the end of its line. -/
def skipComment (c : Cursor) : Cursor :=
  if c.sees (· == '#') then c.skipWhile fun ch => !c.version.isBreak ch else c

/-- Passes blanks, and a comment behind them. Version 1.2 wants a blank in front of the comment. -/
def skipLineTail (c : Cursor) : Except Fault Cursor :=
  if c.version = .v12 && c.sees (· == '#') then .error .badComment
  else .ok (c.skipWhile isSpace).skipComment

/-- Whether a document starts or ends here: three hyphens or three points at the start of a line,
and nothing right behind them. -/
def atDocumentMark (c : Cursor) : Bool :=
  c.column == 0 &&
    match c.rest with
    | '-' :: '-' :: '-' :: rest => c.version.endsWord rest
    | '.' :: '.' :: '.' :: rest => c.version.endsWord rest
    | _ => false

end Cursor

/-- The characters that a text of version 1.1 may have. -/
def isAllowed (c : Char) : Bool :=
  let n := c.toNat
  n == 0x9 || n == 0xA || n == 0xD || (0x20 ≤ n && n ≤ 0x7E) || n == 0x85 ||
    (0xA0 ≤ n && n ≤ 0xD7FF) || (0xE000 ≤ n && n ≤ 0xFFFD && n != 0xFEFF) || 0x10000 ≤ n

/-- The start of a text. Version 1.1 passes the mark that may stand there and wants allowed
characters only; version 1.2 takes any characters up to a null, which ends the text. -/
def Cursor.ofText (version : Version) (text : List Char) : Except Fault Cursor :=
  match version with
  | .v11 =>
    let text :=
      match text with
      | '\uFEFF' :: rest => rest
      | text => text
    if text.all isAllowed then .ok { version, rest := text } else .error .forbiddenCharacter
  | .v12 => .ok { version, rest := text.takeWhile (· != '\x00') }

end RequiredFields.Yaml
