import RequiredFields.Configuration.Tree

/-!
# Keys that lead into a tree

A key at the top of a source may lead into a tree: names with points between them enter tables, and
a number in square brackets enters a list. What stands in the way is replaced, and lists are filled
up, but only behind their items. A key of any other form is a name as it stands.
-/

namespace RequiredFields.Configuration

/-- A step into a tree. -/
inductive Step where
  /-- Into the value of a key of a table. -/
  | child (name : String)
  /-- Into an item of a list; a negative number counts from the end. -/
  | item (index : Int)
  deriving DecidableEq, Repr

/-- The characters of a name. -/
def isKeyChar (c : Char) : Bool :=
  c.isAlphanum || c == '_' || c == '-' || c == ' '

/-- A name at the start of a text, and the rest. -/
def takeName? (text : List Char) : Option (String × List Char) :=
  let name := text.takeWhile isKeyChar
  if name.isEmpty then none else some (.ofList name, text.dropWhile isKeyChar)

/-- The blanks that may surround the number of an item. -/
def isKeyBlank (c : Char) : Bool :=
  c == ' ' || c == '\t' || c == '\r' || c == '\n'

/-- The number of an item behind its bracket, and the rest behind the closing one. -/
def takeIndex? (text : List Char) : Option (Int × List Char) :=
  let text := text.dropWhile isKeyBlank
  let (sign, digits) :=
    match text with
    | '-' :: rest => (['-'], rest)
    | text => ([], text)
  match (digits.dropWhile Char.isDigit).dropWhile isKeyBlank with
  | ']' :: rest =>
    (decimalOfText? (sign ++ digits.takeWhile Char.isDigit)).map fun n => (n, rest)
  | _ => none

/-- The steps behind the first name of a key; `fuel` bounds their number. -/
def stepsOf? : Nat → List Char → Option (List Step)
  | _, [] => some []
  | 0, _ => none
  | fuel + 1, '.' :: text => do
    let (name, rest) ← takeName? text
    return .child name :: (← stepsOf? fuel rest)
  | fuel + 1, '[' :: text => do
    let (index, rest) ← takeIndex? text
    return .item index :: (← stepsOf? fuel rest)
  | _, _ => none

/-- The steps of a key. -/
def stepsOfKey (key : String) : List Step :=
  let steps? := do
    let (name, rest) ← takeName? key.toList
    return Step.child name :: (← stepsOf? rest.length rest)
  steps?.getD [.child key]

namespace Tree

/-- The place of an item in a list of `n` items; none in front of the list. -/
def position? (index : Int) (n : Nat) : Option Nat :=
  if 0 ≤ index then some index.toNat
  else if index.natAbs ≤ n then some (n - index.natAbs)
  else none

/-- Replaces an item of a list, which is filled up if it is too short. -/
def replaceItem (i : Nat) (value : Tree) (items : List Tree) : List Tree :=
  (items ++ List.replicate (i + 1 - items.length) nothing).set i value

/-- Puts a value at the end of some steps into a tree; none where a step leads in front of a list,
which breaks the program down. -/
def place? (value : Tree) : List Step → Tree → Option Tree
  | [], _ => some value
  | [.child name], t => some (lay name t value)
  | .child name :: steps, t => do
    let old := (t.entries.lookup (lowerCase name)).getD nothing
    let new ← place? value steps old
    return table (replaceEntry (lowerCase name) new t.entries)
  | .item index :: steps, t => do
    let i ← position? index t.items.length
    let new ← place? value steps (t.items[i]?.getD nothing)
    return list (replaceItem i new t.items)

/-- Lays a source over a tree: each of its entries is put where its key leads. -/
def layer? (base : Tree) (source : List (String × Tree)) : Option Tree :=
  source.foldlM (fun t (key, value) => place? value (stepsOfKey key) t) base

end Tree

end RequiredFields.Configuration
