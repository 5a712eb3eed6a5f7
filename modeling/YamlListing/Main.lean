import YamlListing.Command.Run

set_option autoImplicit false

/-! # The command

Reads what a run may look at, runs the command, and writes what it answers. -/

namespace YamlListing

/-- The text of bytes. -/
def decodeBytes (bytes : ByteArray) : Except FileError Text :=
  match String.fromUTF8? bytes with
  | some s => .ok s.toList
  | none => .error (.other "stream did not contain valid UTF-8")

/-- Why a file could not be read. -/
def fileErrorOf : IO.Error → FileError
  | .noFileOrDirectory .. => .notFound
  | .inappropriateType _ 20 _ => .notADirectory
  | .inappropriateType .. => .isADirectory
  | e => .other (toString e)

/-- The text of a file. -/
def readFile (path : String) : IO (Except FileError Text) := do
  try return decodeBytes (← IO.FS.readBinFile path)
  catch e => return .error (fileErrorOf e)

/-- The text of the standard input. -/
def readStandardInput : IO (Except FileError Text) := do
  try return decodeBytes (← (← IO.getStdin).readBinToEnd)
  catch e => return .error (fileErrorOf e)

/-- The files that arguments name, with their texts. The standard input is not among them. -/
def readFiles (paths : List String) : IO (List (String × Except FileError Text)) :=
  (paths.filter fun path => !Session.isStandardInput path).mapM fun path => do
    return (path, ← readFile path)

/-- What a run with given arguments may look at. -/
def readEnvironment (args : List Text) : IO Environment := do
  let settingsFile ← IO.getEnv Session.settingsVariable
  let logLevel ← IO.getEnv Session.logVariable
  let paths := match Arguments.ofList args with
    | .ok a => a.file.toList ++ a.diff.toList
    | .error _ => []
  let settings := match Arguments.ofList args with
    | .ok a => (a.config.or settingsFile).toList
    | .error _ => []
  let input ← if paths.any Session.isStandardInput then readStandardInput else pure (.ok [])
  let settings ← settings.mapM fun path => do return (path, ← readFile path)
  let files ← readFiles paths
  return { file := fun path => match (settings ++ files).find? fun entry => entry.1 == path with
             | some (_, content) => content
             | none => .error .notFound
           standardInput := input
           settingsFile := settingsFile
           logLevel := logLevel.map String.toList }

end YamlListing

open YamlListing in
/-- Runs the command. -/
def main (args : List String) : IO UInt32 := do
  let args := args.map String.toList
  let outcome := Command.run (← readEnvironment args) args
  (← IO.getStderr).putStr (String.ofList outcome.errors)
  let output ← IO.getStdout
  output.putStr (String.ofList outcome.output)
  output.flush
  return UInt32.ofNat outcome.code
