import Schemata.CommandLine.Run
import Schemata.Project.Toml

/-!
# The program

The outer layer of the command line: files and the standard streams.
-/

namespace Schemata.CommandLine

def systemReason : IO.Error → String
  | .noFileOrDirectory .. => noSuchFile
  | .permissionDenied .. => "Permission denied (os error 13)"
  | .inappropriateType .. => "Is a directory (os error 21)"
  | error => toString error

def reasoned {α : Type} (action : IO α) : IO (Except String α) := do
  match ← action.toBaseIO with
  | .ok value => return .ok value
  | .error error => return .error (systemReason error)

def textOf (bytes : ByteArray) : IO String :=
  match String.fromUTF8? bytes with
  | some text => return text
  | none => throw (IO.userError "stream did not contain valid UTF-8")

partial def readAll (stream : IO.FS.Stream) (bytes : ByteArray) : IO ByteArray := do
  let more ← stream.read 65536
  if more.isEmpty then return bytes
  else readAll stream (bytes ++ more)

/-- The project file under a path.  A directory is none. -/
def readConfig (path : String) : IO ConfigFile := do
  match ← (IO.FS.readBinFile path).toBaseIO with
  | .error error => return match error with
      | .noFileOrDirectory .. | .inappropriateType .. => .missing (systemReason error)
      | _ => .unreadable (systemReason error)
  | .ok bytes =>
      match String.fromUTF8? bytes with
      | none => return .unreadable "stream did not contain valid UTF-8"
      | some text =>
          match Toml.read? text with
          | some content => return .document content
          | none => return .malformed "not a TOML document"

def processSurroundings : Surroundings IO where
  readText path := reasoned do textOf (← IO.FS.readBinFile path)
  readInput := reasoned do textOf (← readAll (← IO.getStdin) .empty)
  writeText path content := reasoned (IO.FS.writeFile path content)
  readConfig := readConfig

end Schemata.CommandLine

def main (arguments : List String) : IO UInt32 := do
  let outcome ← Schemata.CommandLine.run Schemata.CommandLine.processSurroundings arguments
  IO.print outcome.output
  IO.eprint outcome.errors
  return outcome.exitCode.toUInt32
