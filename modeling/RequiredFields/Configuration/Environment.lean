import RequiredFields.Configuration.Tree
import RequiredFields.Text.Octets

/-!
# Environment variables

The variables whose names start with `MANDATORYIF_`, in any case, set keys of the configuration. Two
low lines in the rest of the name separate the levels.
-/

namespace RequiredFields.Configuration

/-- Variables and their values, in the order in which they were set. -/
abbrev Environment := List (String × String)

/-- The name and the value in an entry of a block, with an equals sign between them. No name is
empty, so that an equals sign in front belongs to the name. -/
def splitEntry? : Octets → Option (Octets × Octets)
  | [] => none
  | first :: rest =>
    match rest.dropWhile (· != 61) with
    | _ :: value => some (first :: rest.takeWhile (· != 61), value)
    | [] => none

/-- The entries of a block, in which a zero ends each entry. -/
def entriesOfBlock (block : Octets) : List (Octets × Octets) :=
  (List.splitOn 0 block).filterMap splitEntry?

/-- The variables of a block that are texts. -/
def variablesOfBlock (block : Octets) : Environment :=
  (entriesOfBlock block).filterMap fun (name, value) => do
    return (← name.toText?, ← value.toText?)

/-- The names of the variables of a block that are no texts, none for a name that is no text
itself. -/
def garbledOfBlock (block : Octets) : List (Option String) :=
  (entriesOfBlock block).filterMap fun (name, value) =>
    if name.toText?.isSome && value.toText?.isSome then none else some name.toText?

/-- How the names of the variables start that set keys. -/
def variableStem : String := "mandatoryif_"

/-- Puts a point for every two low lines, from the left. -/
def separateLevels : List Char → List Char
  | '_' :: '_' :: text => '.' :: separateLevels text
  | c :: text => c :: separateLevels text
  | [] => []

/-- The key that a variable sets. -/
def keyOfVariable? (name : String) : Option String :=
  let name := (lowerCase name).toList
  if variableStem.toList.isPrefixOf name then
    some (.ofList (separateLevels (name.drop variableStem.length)))
  else none

/-- What the text of a variable says: a truth value in any case, a whole number, a number, or
itself. -/
def valueOfVariable (text : String) : Tree :=
  if lowerCase text = "true" then .boolean true
  else if lowerCase text = "false" then .boolean false
  else
    match decimalOfText? text.toList with
    | some n => .integer n
    | none =>
      match Binary64.ofText? text.toList with
      | some x => .float x
      | none => .text text

/-- What the variables say, later ones replacing earlier ones that set the same key. -/
def sourceOfEnvironment (env : Environment) : List (String × Tree) :=
  env.foldl
    (fun source (name, value) =>
      match keyOfVariable? name with
      | some key => replaceEntry key (valueOfVariable value) source
      | none => source)
    []

end RequiredFields.Configuration
