import RequiredFields.Configuration.Document
import RequiredFields.Folder

/-!
# Configuration files

A configuration file has one of six formats, told by its extension, and holds a table. How texts of
a format are read is left open; there are readers for JSON and YAML here.
-/

namespace RequiredFields.Configuration

/-! ## Formats -/

/-- The formats of configuration files. -/
inductive Format where
  /-- JSON. -/
  | json
  /-- YAML. -/
  | yaml
  /-- TOML. -/
  | toml
  /-- INI. -/
  | ini
  /-- RON. -/
  | ron
  /-- JSON5. -/
  | json5
  deriving DecidableEq, Repr

namespace Format

/-- All formats. -/
def all : List Format := [json, yaml, toml, ini, ron, json5]

/-- The extensions of the files of a format, in the order in which they are tried. -/
def extensions : Format → List String
  | json => ["json"]
  | yaml => ["yaml", "yml"]
  | toml => ["toml"]
  | ini => ["ini"]
  | ron => ["ron"]
  | json5 => ["json5"]

/-- The format of the files with an extension. -/
def ofExtension? (extension : String) : Option Format :=
  all.find? fun format => format.extensions.contains extension

end Format

/-! ## Reading a file -/

/-- The tables that the texts of each format hold. -/
abbrev Readers := Format → String → Except TextFault (List (String × Tree))

/-- The table that a tree is. -/
def tableOfTree : Tree → Except TextFault (List (String × Tree))
  | .table entries => .ok entries
  | _ => .error .broken

/-- The readers of JSON and YAML. Texts of other formats count as broken. -/
def ownReaders : Readers
  | .json, text =>
    match Json.Value.ofText text with
    | .ok x => tableOfTree (.ofJson x)
    | .error _ => .error .broken
  | .yaml, text => treeOfYaml text >>= tableOfTree
  | _, _ => .error .broken

/-! ## Finding a file -/

/-- The paths that add an extension to a path, and their formats, in the given order of formats. -/
def extendedPaths (order : List Format) (path : String) : List (Format × String) :=
  order.flatMap fun format =>
    format.extensions.filterMap fun extension =>
      (withExtension? path extension).map fun path => (format, path)

/-- The path of the file that a path means, and its format: the file of that name, which then needs
one of the extensions, or the first one that has an extension behind that name. -/
def findPath? (order : List Format) (folder : Folder) (path : String) :
    Option (Format × String) :=
  if folder.hasFile path then do
    let format ← Format.ofExtension? (← extension? path)
    return (format, path)
  else
    (extendedPaths order (folder.absolute path)).find? fun (_, path) => folder.hasFile path

/-- The format and content of the file that a path means, if there is one that may be read. -/
def findFile? (order : List Format) (folder : Folder) (path : String) :
    Option (Format × Octets) := do
  let (format, path) ← findPath? order folder path
  let content ← folder.file? path
  return (format, content)

end RequiredFields.Configuration
