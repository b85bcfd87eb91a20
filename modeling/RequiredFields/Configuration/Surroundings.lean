import RequiredFields.Configuration.Assignments
import RequiredFields.Configuration.File
import RequiredFields.Configuration.Key

/-!
# What the command is started in

A configuration depends on the files that can be reached from a folder, on the environment
variables, on how the formats of files are read, and on orders that differ from run to run. The
program breaks down where the file of assignments sets a variable to a value that no variable can
have, where a key leads in front of a list, and where a variable is no text.
-/

namespace RequiredFields.Configuration

/-! ## Orders -/

/-- An order in which the entries of a table come up. -/
structure Walk where
  /-- The entries in this order. -/
  order : List (String × Tree) → List (String × Tree) := fun entries => entries
  /-- Every entry comes up once. -/
  perm_order : ∀ entries, (order entries).Perm entries := by exact fun _ => .refl _

mutual

/-- A tree with the entries of its tables in the order in which they come up. The keys in `path`
lead to the tree, and `walk` has the order for each table by the keys that lead to it. -/
def Tree.arrange (walk : List String → Walk) (path : List String) : Tree → Tree
  | table entries => table ((walk path).order (arrangeEntries walk path entries))
  | t => t

/-- Entries with all tables in their values in the order in which they come up. -/
def Tree.arrangeEntries (walk : List String → Walk) (path : List String) :
    List (String × Tree) → List (String × Tree)
  | [] => []
  | (key, t) :: entries =>
    (key, arrange walk (path ++ [key]) t) :: arrangeEntries walk path entries

end

/-- The orders that may differ from one run to the next. -/
structure Orders where
  /-- The formats in the order in which a file is looked for. -/
  formats : List Format := Format.all
  /-- A file is looked for in every format once. -/
  perm_formats : formats.Perm Format.all := by exact .refl _
  /-- The orders of the tables in a file. -/
  file : List String → Walk := fun _ => {}
  /-- The order of what the variables say. -/
  environment : Walk := {}

/-! ## Surroundings -/

/-- What the command is started in. -/
structure Surroundings where
  /-- The folder it runs in. -/
  folder : Folder := {}
  /-- The environment variables that are texts. -/
  environment : Environment := []
  /-- The names of the variables that are no texts, none for a name that is no text itself. -/
  garbled : List (Option String) := []
  /-- How files are read. -/
  readers : Readers := ownReaders
  /-- The orders in this run. -/
  orders : Orders := {}

/-- The name of the file of assignments. -/
def assignmentsName : String := ".env"

/-- The path of the configuration file, without its extension. -/
def filePath : String := "config/mandatoryif"

/-- The names that lead to the files that a configuration can come from, in a folder that the given
names lead to. -/
def consultedFiles (names : List String) : List (List String) :=
  let paths := filePath :: (extendedPaths Format.all filePath).map (·.2)
  ((List.range (names.length + 1)).map fun n => names.take n ++ [assignmentsName]) ++
    paths.map fun path => names ++ pathParts path

namespace Surroundings

/-- The content of the file of assignments, the nearest one, if it may be read. -/
def assignments? (s : Surroundings) : Option Octets :=
  (s.folder.nearest? assignmentsName).join

/-- The variables with those that the file of assignments sets; none where it breaks the program
down. -/
def fullEnvironment? (s : Surroundings) : Option Environment :=
  match s.assignments? with
  | some content => assign? s.environment content
  | none => some s.environment

/-- The format and content of the configuration file that a path means. -/
def findFile? (s : Surroundings) (path : String) : Option (Format × Octets) :=
  Configuration.findFile? s.orders.formats s.folder path

/-- The table that the content of a configuration file holds. -/
def tableOf (s : Surroundings) (format : Format) (content : Octets) :
    Except TextFault (List (String × Tree)) :=
  s.readers format content.withoutMark.toTextLossy

/-- The table in the usual configuration file. A file that is missing or may not be read says
nothing. -/
def usualTable (s : Surroundings) : Except TextFault (List (String × Tree)) :=
  match s.findFile? filePath with
  | none => .ok []
  | some (format, content) => s.tableOf format content

/-- Whether a variable that is no text has been set to a text. -/
def isRepaired (s : Surroundings) (environment : Environment) (name : Option String) : Bool :=
  name.any fun name => (s.environment.lookup name).isNone && (environment.lookup name).isSome

/-- What the variables say, if all of them are texts now. -/
def sourceOf? (s : Surroundings) (environment : Environment) : Option (List (String × Tree)) :=
  if s.garbled.all (s.isRepaired environment) then
    some (s.orders.environment.order (sourceOfEnvironment environment))
  else none

/-- The tree of a file with what the variables say laid over it. -/
def treeOf? (s : Surroundings) (file : List (String × Tree)) (environment : Environment) :
    Option Tree := do
  let t ← (Tree.table []).layer? ((Tree.table file).arrange s.orders.file []).entries
  t.layer? (← s.sourceOf? environment)

end Surroundings

end RequiredFields.Configuration
