import RequiredFields.Yaml.Cursor

/-!
# Block scalars

A block scalar keeps its lines, or folds them: then a single line break between two lines that start
with no blank becomes a blank. Its header says how much it is indented and what becomes of the line
breaks at its end.
-/

namespace RequiredFields.Yaml

/-! ## Headers -/

/-- What is done with the line breaks at the end of a block scalar. -/
inductive Chomping where
  /-- All are dropped. -/
  | strip
  /-- One is kept. -/
  | clip
  /-- All are kept. -/
  | keep
  deriving DecidableEq, Repr

/-- The header of a block scalar behind its first character: the chomping, and the indentation
unless it is left open. -/
def readBlockHeader (c : Cursor) : Except Fault (Chomping × Option Nat × Cursor) :=
  let chomping? (c : Cursor) : Option Chomping :=
    match c.peek? with
    | some '+' => some .keep
    | some '-' => some .strip
    | _ => none
  let digit? (c : Cursor) : Option Nat := c.peek?.bind fun ch =>
    if ch.isDigit then some (ch.toNat - 48) else none
  match chomping? c, digit? c with
  | some chomping, _ =>
    let c := c.advance 1
    match digit? c with
    | some 0 => .error .badBlockHeader
    | some n => .ok (chomping, some n, c.advance 1)
    | none => .ok (chomping, none, c)
  | none, some 0 => .error .badBlockHeader
  | none, some n =>
    let c := c.advance 1
    match chomping? c with
    | some chomping => .ok (chomping, some n, c.advance 1)
    | none => .ok (.clip, some n, c)
  | none, none => .ok (.clip, none, c)

/-! ## Lines -/

/-- Passes the indentation of a block scalar and its empty lines. The answer is the breaks of these
lines, the widest indentation met, and the place behind them. As long as the indentation is still
to be found out, all blanks count. Version 1.1 refuses a tab there, for version 1.2 it is text. -/
def readBlockBreaks (indent? : Option Nat) (widest : Nat) (c : Cursor) :
    Except Fault (List Char × Nat × Cursor) :=
  let spaces := (c.rest.takeWhile (· == ' ')).length
  let c' := c.advance ((indent?.map fun indent => min spaces (indent - c.column)).getD spaces)
  let widest := max widest c'.column
  if c.version = .v11 && indent?.all (c'.column < ·) && c'.sees (· == '\t') then
    .error .tabIndentation
  else if c'.seesBreak then
    let (b, next) := c'.takeBreak
    if next.rest.length < c.rest.length then
      (readBlockBreaks indent? widest next).map fun (breaks, widest, c) => (b ++ breaks, widest, c)
    else .ok ([], widest, c')
  else .ok ([], widest, c')
termination_by c.rest.length

/-- The break that stands for the end of the text where it ends a line of a block scalar: version
1.2 lets every line end with a break. -/
def finalBreak (indent : Nat) (c : Cursor) : List Char :=
  if c.version = .v12 && c.atEnd && max indent 1 ≤ c.column then ['\n'] else []

/-- Reads the lines of a block scalar. `lead` is the break behind the last line, `later` the breaks
of the empty lines after it, and `leadBlank` tells whether that line started with a blank. -/
def readBlockLines (literal : Bool) (chomping : Chomping) (indent : Nat)
    (text lead later : List Char) (leadBlank : Bool) (c : Cursor) :
    Except Fault (List Char × Cursor) :=
  if c.column == indent && !c.atEnd then
    let blank := c.sees isSpace
    let joint :=
      if !literal && lead.head? == some '\n' && !leadBlank && !blank then
        (if later.isEmpty then [' '] else [])
      else lead
    let (line, behind) := c.takeWhile fun ch => !c.version.isBreak ch
    let (lead', start) := behind.takeBreak
    match readBlockBreaks (some indent) 0 start with
    | .error e => .error e
    | .ok (later', _, next) =>
      if next.rest.length < c.rest.length then
        readBlockLines literal chomping indent (text ++ joint ++ later ++ line) lead' later' blank
          next
      else .ok (text ++ joint ++ later ++ line, next)
  else
    match chomping with
    | .strip => .ok (text, c)
    | .clip => .ok (text ++ lead ++ finalBreak indent c, c)
    | .keep => .ok (text ++ lead ++ finalBreak indent c ++ later, c)
termination_by c.rest.length

/-! ## Scalars -/

/-- The indentation of a block scalar whose header leaves it open: that of its first line that is
not empty, or of the widest empty line before it. -/
def foundIndent (version : Version) (parent : Int) (widest : Nat) : Nat :=
  let indent := max widest (parent + 1).toNat
  match version with
  | .v11 => max indent 1
  | .v12 => indent

/-- Reads a block scalar behind its first character. Its indentation is counted from that of the
collection around it, or found from its first line. -/
def readBlock (literal : Bool) (parent : Int) (c : Cursor) : Except Fault (List Char × Cursor) := do
  let (chomping, explicit?, c) ← readBlockHeader c
  let c ← c.skipLineTail
  if !c.atLineEnd then throw .badBlockHeader
  let c := c.takeBreak.2
  if c.version = .v12 && c.sees (· == '\t') then throw .tabIndentation
  let indent? := explicit?.map ((max parent 0).toNat + ·)
  let (breaks, widest, c) ← readBlockBreaks indent? 0 c
  let indent := indent?.getD (foundIndent c.version parent widest)
  if c.version = .v12 && !c.atEnd && c.column < indent && parent < c.column then
    throw .badIndentation
  readBlockLines literal chomping indent [] [] breaks false c

end RequiredFields.Yaml
