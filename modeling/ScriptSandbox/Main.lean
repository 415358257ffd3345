import ScriptSandbox.CommandLine.Program
import Std.Time.DateTime.Timestamp

/-!
The command line program. It connects the commands to the files and streams of the system; time budgets
go by the work that scripts do, and there is no network.
-/

namespace ScriptSandbox

/-- What kept a file from being used; the system's number tells kinds of files apart. -/
def FileFault.ofError : IO.Error → FileFault
  | .noFileOrDirectory .. => .notFound
  | .alreadyExists .. => .alreadyExists
  | .permissionDenied .. => .permissionDenied
  | .inappropriateType _ number _ => if number = 20 then .notDirectory else .isDirectory
  | _ => .notFound

def attemptFile (action : IO α) : IO (Except FileFault α) := do
  match ← action.toBaseIO with
  | .ok result => return .ok result
  | .error error => return .error (.ofError error)

partial def readAll (stream : IO.FS.Stream) (read : ByteArray) : IO ByteArray := do
  let part ← stream.read 65536
  if part.isEmpty then return read else readAll stream (read ++ part)

def systemShell : Shell IO where
  readFile path := attemptFile do return (← IO.FS.readBinFile path).data
  readInput := do return (← readAll (← IO.getStdin) .empty).data
  isPresent path := do
    match ← attemptFile (IO.FS.Handle.mk path .read) with
    | .error .notFound | .error .notDirectory => return false
    | _ => return true
  makeDirectories path := attemptFile (IO.FS.createDirAll path)
  writeFile path content := attemptFile (IO.FS.writeFile path content)
  print text := IO.print text
  report text := IO.eprint text

end ScriptSandbox

open ScriptSandbox in
def main (arguments : List String) : IO UInt32 := do
  let environment : Environment := {
    home := ← IO.getEnv "HOME"
    configHome := ← IO.getEnv "XDG_CONFIG_HOME"
    config := ← IO.getEnv "SCRIPTLET_CONFIG" }
  let start ← Std.Time.Timestamp.now
  let clock := Clock.byWork start.toMillisecondsSinceUnixEpoch.toInt
  let code ← Program.run systemShell environment clock Transport.unreachable arguments
  return code.toUInt32
