import RequiredFields.Folder
import RequiredFields.Settings.Yaml

/-!
# Settings from a file

A file of settings is a YAML text, whatever its name.
-/

namespace RequiredFields.Settings

/-- Why a file gives no settings. -/
inductive FileFault where
  /-- The path gives no text. -/
  | unreachable (fault : PathFault)
  /-- The text gives no settings. -/
  | text (fault : YamlFault)
  deriving DecidableEq, Repr

/-- The fault of a path in one line. -/
def pathMessage (fault : PathFault) : String :=
  "I/O error: " ++ fault.message

/-- The settings in the file that a path leads to, unless they have a fault. -/
def ofFile (folder : Folder) (path : String) : Except FileFault Settings := do
  let text ← (folder.readText path).mapError .unreachable
  (ofYaml text).mapError .text

end RequiredFields.Settings
