import RequiredFields.Configuration.Environment
import RequiredFields.Text.Alphanumeric
import RequiredFields.Text.Blank
import RequiredFields.Text.Octets

/-!
# Assignments

A file of assignments sets variables that are not set yet, line by line, up to the first line that
is broken. A line goes on where a quotation is open. Values may be quoted, have escapes, and refer
to variables and to earlier assignments.
-/

namespace RequiredFields.Configuration

/-! ## Lines -/

/-- Where the end of a line was met. -/
inductive LineState where
  /-- Between words. -/
  | plain
  /-- Behind a blank. -/
  | blank
  /-- Behind a backslash. -/
  | escape
  /-- Inside single quotation marks, and whether behind a backslash. -/
  | single (escape : Bool)
  /-- Inside double quotation marks, and whether behind a backslash. -/
  | double (escape : Bool)
  deriving DecidableEq, Repr

namespace LineState

/-- The state behind a character outside quotation marks. -/
def outside (c : Char) : LineState :=
  if c = '\\' then escape
  else if c = '"' then double false
  else if c = '\'' then single false
  else plain

/-- The state behind a character. -/
def next (c : Char) : LineState → LineState
  | plain => if Text.isBlank c && c != '\n' && c != '\r' then blank else outside c
  | blank => outside c
  | escape => plain
  | single true => single false
  | single false =>
    if c = '\\' then single true else if c = '\'' then plain else single false
  | double true => double false
  | double false =>
    if c = '\\' then double true else if c = '"' then plain else double false

/-- The state behind a line, and the part of the line in front of a comment if it has one. A
comment starts behind a blank. -/
def scan : LineState → List Char → LineState × Option (List Char)
  | state, [] => (state, none)
  | state, c :: text =>
    if state = blank ∧ c = '#' then (state, some [])
    else
      let (state, cut) := scan (next c state) text
      (state, cut.map (c :: ·))

end LineState

/-- The lines of a content, each with its line feed. -/
def rawLines : Octets → List Octets
  | [] => []
  | b :: rest =>
    if b == 10 then [b] :: rawLines rest
    else
      match rawLines rest with
      | [] => [[b]]
      | line :: lines => (b :: line) :: lines

/-- A line without its line feed and the carriage return in front of it. -/
def withoutBreak (line : List Char) : List Char :=
  match line.reverse with
  | '\n' :: '\r' :: rest => rest.reverse
  | '\n' :: rest => rest.reverse
  | _ => line

/-- The lines that are complete, `pending` being the start of one that is not. A line that is no
text or never completed ends them; the answer says so by a last `none`. -/
def completeLines (pending : List Char) (state : LineState) :
    List Octets → List (Option (List Char))
  | [] => if state = .plain then [] else [none]
  | raw :: rest =>
    match raw.toText? with
    | none => [none]
    | some text =>
      let line := pending ++ text.toList
      if (Text.trimStart line).head? = some '#' then some [] :: completeLines [] .plain rest
      else
        match state.scan text.toList with
        | (_, some cut) => some (pending ++ cut) :: completeLines [] .plain rest
        -- Only a line that ends between words is complete; any other state goes on.
        | (.plain, none) => some (withoutBreak line) :: completeLines [] .plain rest
        | (state, none) => completeLines line state rest

/-! ## Values -/

/-- How a reference to a variable is being read. -/
inductive Reference where
  /-- None is. -/
  | none
  /-- Behind a dollar sign. -/
  | open
  /-- Behind a dollar sign and a curly bracket. -/
  | bracketed
  deriving DecidableEq, Repr

/-- How far a value was read. -/
structure ValueState where
  /-- The value so far. -/
  output : List Char := []
  /-- Whether a single quotation mark is open. -/
  single : Bool := false
  /-- Whether a double quotation mark is open. -/
  double : Bool := false
  /-- Whether a backslash stands in front. -/
  escape : Bool := false
  /-- Whether nothing but a comment may follow. -/
  ended : Bool := false
  /-- The reference that is being read. -/
  reference : Reference := .none
  /-- The name in it so far. -/
  name : List Char := []

namespace ValueState

/-- Puts the value of the variable that the reference names. -/
def resolve (valueOf : String → String) (s : ValueState) : ValueState :=
  { s with output := s.output ++ (valueOf (.ofList s.name)).toList, name := [] }

/-- The state behind a character; none where the value is broken. -/
def next? (valueOf : String → String) (s : ValueState) (c : Char) : Option ValueState :=
  if s.ended then (if c = ' ' ∨ c = '\t' then some s else none)
  else if s.escape then
    if c = '\\' ∨ c = '\'' ∨ c = '"' ∨ c = '$' ∨ c = ' ' then
      some { s with output := s.output ++ [c], escape := false }
    else if c = 'n' then some { s with output := s.output ++ ['\n'], escape := false }
    else none
  else if s.single then
    if c = '\'' then some { s with single := false } else some { s with output := s.output ++ [c] }
  else if s.reference ≠ .none then
    if Text.isAlphanumeric c then some { s with name := s.name ++ [c] }
    else if s.reference = .bracketed then
      if c = '\x7d' then some { s.resolve valueOf with reference := .none }
      else some { s with name := s.name ++ [c] }
    else if c = '\x7b' ∧ s.name = [] then some { s with reference := .bracketed }
    else
      let s := s.resolve valueOf
      if c = '$' then some s else some { s with reference := .none, output := s.output ++ [c] }
  else if c = '$' then some { s with reference := .open }
  else if c = '\\' then some { s with escape := true }
  else if s.double then
    if c = '"' then some { s with double := false } else some { s with output := s.output ++ [c] }
  else if c = '\'' then some { s with single := true }
  else if c = '"' then some { s with double := true }
  else if c = ' ' ∨ c = '\t' then some { s with ended := true }
  else some { s with output := s.output ++ [c] }

/-- The value that the characters of a line write from here on. -/
def run? (valueOf : String → String) (s : ValueState) : List Char → Option String
  | [] =>
    if s.reference = .bracketed || s.single || s.double then none
    else some (.ofList (s.resolve valueOf).output)
  | c :: text =>
    if s.ended ∧ c = '#' then run? valueOf s []
    else (s.next? valueOf c).bind fun s => run? valueOf s text

end ValueState

/-! ## Assignments -/

/-- The characters of a name behind its first. -/
def isNameChar (c : Char) : Bool :=
  c.isAlphanum || c == '_' || c == '.'

/-- A name at the start of a text, and the rest without the blanks it starts with. -/
def takeVariable? (text : List Char) : Option (String × List Char) :=
  match text with
  | c :: _ =>
    if c.isAlpha || c == '_' then
      some (.ofList (text.takeWhile isNameChar), Text.trimStart (text.dropWhile isNameChar))
    else none
  | [] => none

/-- The text behind an equals sign. -/
def afterEquals? : List Char → Option (List Char)
  | '=' :: text => some text
  | _ => none

/-- The name that a line assigns to, and the text of the value. The word `export` may stand in
front. -/
def takeTarget? (text : List Char) : Option (String × List Char) := do
  let (name, rest) ← takeVariable? text
  match afterEquals? rest with
  | some value => return (name, value)
  | none =>
    if name = "export" then
      let (name, rest) ← takeVariable? rest
      return (name, ← afterEquals? rest)
    else none

/-- What a line says. -/
inductive Line where
  /-- Nothing. -/
  | empty
  /-- A variable and its value. -/
  | assignment (name value : String)
  /-- Something that is no assignment. -/
  | broken
  deriving DecidableEq, Repr

/-- Reads a line; `valueOf` gives the values of variables that it refers to. -/
def readLine (valueOf : String → String) (text : List Char) : Line :=
  let text := Text.trim text
  if text.isEmpty || text.head? == some '#' then .empty
  else
    match takeTarget? text with
    | none => .broken
    | some (name, value) =>
      let value := Text.trimStart value
      if value.isEmpty || value.head? == some '#' then .assignment name ""
      else
        match ValueState.run? valueOf {} value with
        | some value => .assignment name value
        | none => .broken

/-- Applies lines to the variables, `earlier` being all assignments so far, the last one first. A
reference means a variable that is set, else the last assignment. There is no result where a
variable would be set to a value with a zero, which breaks the program down. -/
def assignAll? (env earlier : Environment) :
    List (Option (List Char)) → Option Environment
  | [] => some env
  | none :: _ => some env
  | some text :: lines =>
    -- What is set in the environment wins over what the file says.
    let valueOf (name : String) : String :=
      (env.lookup name).getD ((earlier.lookup name).getD "")
    match readLine valueOf text with
    | .broken => some env
    | .empty => assignAll? env earlier lines
    | .assignment name value =>
      let earlier := (name, value) :: earlier
      if (env.lookup name).isSome then assignAll? env earlier lines
      else if value.toList.contains '\x00' then none
      else assignAll? (env ++ [(name, value)]) earlier lines

/-- The variables after a file of assignments, unless it breaks the program down. -/
def assign? (env : Environment) (content : Octets) : Option Environment :=
  assignAll? env [] (completeLines [] .plain (rawLines content.withoutMark))

end RequiredFields.Configuration
