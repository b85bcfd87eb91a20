import RequiredFields.Command

/-!
# The program

Reads what the command is started in, runs the command, and prints how it ends.
-/

namespace RequiredFields

/-- The file with a path, with its content if it may be read. -/
def lookAt (path : String) : IO (Option (Option Octets)) := do
  try
    return some (some (← IO.FS.readBinFile path).toList)
  catch
    | .permissionDenied .. => return some none
    | _ => return none

/-- The content of a file, if it can be read. -/
def readFile? (path : String) : IO (Option Octets) := do
  return (← lookAt path).join

/-- The folder of the program, as far as the configuration needs it. -/
def currentFolder : IO Folder := do
  let names := (pathParts (← IO.FS.realPath ".").toString).filter (· != "")
  let files ← (Configuration.consultedFiles names).filterMapM fun file => do
    return (← lookAt ("/" ++ String.intercalate "/" file)).map fun content => (file, content)
  return ⟨files, names⟩

/-- What the program is started in. -/
def surroundings : IO Configuration.Surroundings := do
  let block := (← readFile? "/proc/self/environ").getD []
  return {
    folder := ← currentFolder
    environment := Configuration.variablesOfBlock block
    garbled := Configuration.garbledOfBlock block }

/-- What is left to read of a stream. -/
partial def readStream (stream : IO.FS.Stream) (read : ByteArray) : IO ByteArray := do
  let chunk ← stream.read 65536
  if chunk.isEmpty then return read else readStream stream (read ++ chunk)

/-- The standard input, if it can be read. -/
def standardInput : IO (Option Octets) := do
  try
    return some (← readStream (← IO.getStdin) .empty).toList
  catch _ =>
    return none

/-- The record that the arguments name, the name of the program being the first of them. -/
def sourceOf (arguments : List Octets) : IO Command.Source := do
  match (arguments.take 2).mapM Octets.toText? with
  | none => return .garbled
  | some [_, path] => return .file path (← readFile? path)
  | some _ => return .input (← standardInput)

end RequiredFields

open RequiredFields in
/-- Prints the violations of a record, in the file that the first argument names or on standard
input. -/
def main (_ : List String) : IO UInt32 := do
  let arguments := (((← readFile? "/proc/self/cmdline").getD []).splitOn 0).dropLast
  let outcome := Command.run (← surroundings) (← sourceOf arguments)
  match outcome.fault with
  | some fault => fault.message?.forM fun message => IO.eprintln ("Error: " ++ message)
  | none => (← IO.getStdout).putStr outcome.output
  return outcome.status.toUInt32
