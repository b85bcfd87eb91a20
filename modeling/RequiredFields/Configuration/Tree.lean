import RequiredFields.Number.Shortest

/-!
# Configuration trees

What the sources of a configuration say: scalars, lists and tables. Later sources are laid over
earlier ones: tables are merged key by key, everything else is replaced. Keys are compared in lower
case.
-/

namespace RequiredFields.Configuration

/-- A value of a configuration. -/
inductive Tree where
  /-- Nothing. -/
  | nothing
  /-- A truth value. -/
  | boolean (value : Bool)
  /-- A whole number of 64 bits. -/
  | integer (value : Int)
  /-- Any other number. -/
  | float (value : Binary64)
  /-- A text. -/
  | text (value : String)
  /-- A list. -/
  | list (items : List Tree)
  /-- A table. -/
  | table (entries : List (String × Tree))
  deriving Repr, Inhabited

/-- A text with its ASCII letters in lower case; no key that is looked for has another letter. -/
def lowerCase (s : String) : String :=
  .ofList (s.toList.map Char.toLower)

/-- Replaces the value of a key, or adds the key behind the others. -/
def replaceEntry (key : String) (value : Tree) : List (String × Tree) → List (String × Tree)
  | [] => [(key, value)]
  | (k, v) :: entries =>
    if k = key then (k, value) :: entries else (k, v) :: replaceEntry key value entries

namespace Tree

/-- The entries of a table, none for any other value. -/
def entries : Tree → List (String × Tree)
  | table entries => entries
  | _ => []

/-- The items of a list, none for any other value. -/
def items : Tree → List Tree
  | list items => items
  | _ => []

mutual

/-- Lays a value over that of a key of a table. -/
def lay (key : String) (root : Tree) : Tree → Tree
  | table incoming =>
    let target := (root.entries.lookup (lowerCase key)).getD (table [])
    table (replaceEntry (lowerCase key) (layAll target incoming) root.entries)
  | nothing => table (replaceEntry (lowerCase key) nothing root.entries)
  | boolean b => table (replaceEntry (lowerCase key) (boolean b) root.entries)
  | integer n => table (replaceEntry (lowerCase key) (integer n) root.entries)
  | float x => table (replaceEntry (lowerCase key) (float x) root.entries)
  | text s => table (replaceEntry (lowerCase key) (text s) root.entries)
  | list items => table (replaceEntry (lowerCase key) (list items) root.entries)

/-- Lays the entries of a table over a value one by one. -/
def layAll (target : Tree) : List (String × Tree) → Tree
  | [] => target
  | (key, value) :: incoming => layAll (lay key target value) incoming

end

/-! ## Scalars -/

/-- The value as a truth value: numbers are true unless zero, and some words say so in any case. -/
def toBool? : Tree → Option Bool
  | boolean b => some b
  | integer n => some (n != 0)
  | float x => some !x.isZero
  | text s =>
    let s := lowerCase s
    if ["1", "true", "on", "yes"].contains s then some true
    else if ["0", "false", "off", "no"].contains s then some false
    else none
  | _ => none

/-- The value as a text: truth values and numbers are printed. -/
def toText? : Tree → Option String
  | text s => some s
  | boolean b => some (if b then "true" else "false")
  | integer n => some (toString n)
  | float x => some x.positional
  | _ => none

end Tree

end RequiredFields.Configuration
