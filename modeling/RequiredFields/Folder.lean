import RequiredFields.Text.Octets

/-!
# Folders

The files of a machine, seen from one folder, and what a path that starts there leads to.
-/

namespace RequiredFields

/-- Why a path gives no text. -/
inductive PathFault where
  /-- Nothing has that name. -/
  | notFound
  /-- The path goes on behind a file. -/
  | notDirectory
  /-- The path leads to a folder. -/
  | isDirectory
  /-- A name is longer than names can be. -/
  | nameTooLong
  /-- The path has a character that no path may have. -/
  | forbiddenCharacter
  /-- The file may not be read. -/
  | notAllowed
  /-- The content of the file is no text. -/
  | notText
  deriving DecidableEq, Repr

namespace PathFault

/-- The fault in one line. -/
def message : PathFault → String
  | notFound => "No such file or directory (os error 2)"
  | notDirectory => "Not a directory (os error 20)"
  | isDirectory => "Is a directory (os error 21)"
  | nameTooLong => "File name too long (os error 36)"
  | forbiddenCharacter => "file name contained an unexpected NUL byte"
  | notAllowed => "Permission denied (os error 13)"
  | notText => "stream did not contain valid UTF-8"

end PathFault

/-! ## Names -/

/-- The parts of a path between its slashes. -/
def pathParts (path : String) : List String :=
  (path.toList.splitOn '/').map String.ofList

/-- The last name of a path; none when the path ends by going up, or has no name. -/
def fileName? (path : String) : Option String :=
  match ((pathParts path).filter fun part => part != "" && part != ".").getLast? with
  | some ".." => none
  | name => name

/-- What follows the last point of the last name; none when that point is the first character or
there is none. -/
def extension? (path : String) : Option String := do
  let name ← fileName? path
  let reversed := name.toList.reverse
  match reversed.dropWhile (· != '.') with
  | [] | ['.'] => none
  | _ => some (.ofList (reversed.takeWhile (· != '.')).reverse)

/-- The path cut behind its last name, with an extension added; none when it has no last name. -/
def withExtension? (path extension : String) : Option String :=
  (fileName? path).map fun _ =>
    let kept := (pathParts path).reverse.dropWhile fun part => part == "" || part == "."
    String.intercalate "/" kept.reverse ++ "." ++ extension

/-! ## Content -/

/-- A folder, and all files that a path from there can lead to. -/
structure Folder where
  /-- The files, each with the names that lead to it from the root, and its content; none if the
  file may not be read. -/
  files : List (List String × Option Octets) := []
  /-- The names that lead from the root to the folder itself. -/
  names : List String := []

/-- What a path has reached. -/
inductive Place where
  /-- The folder that the names lead to, the last name first. -/
  | folder (names : List String)
  /-- A file, with its content if it may be read. -/
  | file (content : Option Octets)

namespace Folder

/-- The longest name, in octets. -/
def maxNameLength : Nat := 255

/-- The root, with the files that the given paths lead to. -/
def ofPaths (files : List (String × Octets)) : Folder :=
  ⟨files.map fun (path, content) =>
    ((pathParts path).filter fun part => part != "" && part != ".", some content), []⟩

/-- Whether the names lead to a folder: the one that one stands in, one around it, or one with some
file below it. -/
def hasFolder (f : Folder) (names : List String) : Bool :=
  names.isPrefixOf f.names ||
    f.files.any fun (path, _) => names.isPrefixOf path && names.length < path.length

/-- Goes on from a place by one part of a path. -/
def enter (f : Folder) (place : Place) (part : String) : Except PathFault Place :=
  match place with
  | .file _ => .error .notDirectory
  | .folder names =>
    if part == "" || part == "." then .ok place
    -- The root lies in itself.
    else if part == ".." then .ok (.folder names.tail)
    else if maxNameLength < part.utf8ByteSize then .error .nameTooLong
    else
      let path := (part :: names).reverse
      match f.files.lookup path with
      | some content => .ok (.file content)
      | none => if f.hasFolder path then .ok (.folder (part :: names)) else .error .notFound

/-- What a path leads to. -/
def find (f : Folder) (path : String) : Except PathFault Place :=
  if path.toList.contains '\x00' then .error .forbiddenCharacter
  else
    match path.toList with
    | [] => .error .notFound
    | '/' :: _ => (pathParts path).foldlM f.enter (.folder [])
    | _ => (pathParts path).foldlM f.enter (.folder f.names.reverse)

/-- Whether a path leads to a file. -/
def hasFile (f : Folder) (path : String) : Bool :=
  match f.find path with
  | .ok (.file _) => true
  | _ => false

/-- The content of the file that a path leads to. -/
def read (f : Folder) (path : String) : Except PathFault Octets := do
  match ← f.find path with
  | .file (some content) => return content
  | .file none => throw .notAllowed
  | .folder _ => throw .isDirectory

/-- The text of the file that a path leads to. -/
def readText (f : Folder) (path : String) : Except PathFault String := do
  match (← f.read path).toText? with
  | some text => return text
  | none => throw .notText

/-- The content of the file that a path leads to, if it leads to a file that may be read. -/
def file? (f : Folder) (path : String) : Option Octets :=
  (f.read path).toOption

/-- The path as it starts from the root. -/
def absolute (f : Folder) (path : String) : String :=
  match path.toList with
  | '/' :: _ => path
  | _ => "/" ++ String.intercalate "/" f.names ++ "/" ++ path

/-- The file of a name that lies in the folder that the names lead to, the last name first, or else
in the nearest folder around it. -/
def upwards? (f : Folder) (name : String) : List String → Option (Option Octets)
  | [] => f.files.lookup [name]
  | last :: names =>
    f.files.lookup (name :: last :: names).reverse <|> f.upwards? name names

/-- The nearest file of a name, in the folder itself or around it, with its content if it may be
read. -/
def nearest? (f : Folder) (name : String) : Option (Option Octets) :=
  f.upwards? name f.names.reverse

end Folder

end RequiredFields
