import ScriptSandbox.Mismatch

/-!
The causes for which the sandbox refuses its host, and their wording: `message` is for people, `debug`
names the cause with its parts quoted.
-/

namespace ScriptSandbox

inductive FileFault where
  | notFound
  | alreadyExists
  | notDirectory
  | isDirectory
  | permissionDenied
  | notUnicode
  deriving Repr, DecidableEq

inductive JsonFault where
  /-- The text is not JSON. -/
  | malformed
  | mismatch (complaint : Mismatch)

inductive Failure where
  | config (complaint : String)
  /-- The configuration is not TOML, or has the wrong shape. -/
  | toml (report : String)
  | outOfMemory (requested : Nat)
  | syntaxError (message : String)
  | script (message : String) (stack : Option String)
  | timeout (timeoutMs : Int)
  | invalidVariableName
  | marshal (message : String)
  | hostNotAllowed (host : String)
  | invalidUrl (url reason : String)
  | file (fault : FileFault)
  | json (fault : JsonFault)
  /-- The HTTP client could not be set up, or could not reach the host. -/
  | http (report : String)
  | other (message : String)

namespace FileFault

/-- What the system says about a fault: its number, its name and its wording. Contents that are no text
are not the system's business. -/
def report : FileFault → Option (Nat × String × String)
  | .notFound => some (2, "NotFound", "No such file or directory")
  | .alreadyExists => some (17, "AlreadyExists", "File exists")
  | .notDirectory => some (20, "NotADirectory", "Not a directory")
  | .isDirectory => some (21, "IsADirectory", "Is a directory")
  | .permissionDenied => some (13, "PermissionDenied", "Permission denied")
  | .notUnicode => none

def notUnicodeText : String := "stream did not contain valid UTF-8"

def message (fault : FileFault) : String :=
  match fault.report with
  | some (number, _, wording) => s!"{wording} (os error {number})"
  | none => notUnicodeText

def debug (fault : FileFault) : String :=
  match fault.report with
  | some (number, name, wording) =>
    "Os \x7b code: " ++ toString number ++ ", kind: " ++ name ++ ", message: " ++ Text.quoted wording ++ " \x7d"
  | none =>
    "Error \x7b kind: InvalidData, message: " ++ Text.quoted notUnicodeText ++ " \x7d"

end FileFault

namespace JsonFault

def message : JsonFault → String
  | .malformed => "malformed document"
  | .mismatch complaint => complaint.message

end JsonFault

namespace Failure

def message : Failure → String
  | .config complaint => "Configuration error: " ++ complaint
  | .toml report => "TOML parse error: " ++ report
  | .outOfMemory requested =>
    s!"Out of memory while creating sandbox session ({requested} byte arena)"
  | .syntaxError message => message
  | .script message _ => message
  | .timeout timeoutMs => s!"JavaScript execution timeout exceeded ({timeoutMs} ms)"
  | .invalidVariableName => "Variable name cannot be empty"
  | .marshal message => "Failed to convert host value to JavaScript value: " ++ message
  | .hostNotAllowed host => "Host '" ++ host ++ "' is not in the fetch allowlist"
  | .invalidUrl url reason => "Invalid fetch URL '" ++ url ++ "': " ++ reason
  | .file fault => "IO error: " ++ fault.message
  | .json fault => "JSON error: " ++ fault.message
  | .http report => "HTTP error: " ++ report
  | .other message => message

/-- The causes behind a failure whose wording repeats theirs, outermost first. -/
def sources : Failure → List String
  | .file fault => [fault.message]
  | .json fault => [fault.message]
  | _ => []

def chain (failure : Failure) : String :=
  ": ".intercalate (failure.message :: failure.sources)

def debug : Failure → String
  | .config complaint => "Config(" ++ Text.quoted complaint ++ ")"
  | .toml report => "TomlParse(" ++ Text.quoted report ++ ")"
  | .outOfMemory requested => "OutOfMemory \x7b requested: " ++ toString requested ++ " \x7d"
  | .syntaxError message => "Syntax \x7b message: " ++ Text.quoted message ++ " \x7d"
  | .script message stack =>
    "Script \x7b message: " ++ Text.quoted message ++ ", stack: " ++
      (match stack with
        | some stack => "Some(" ++ Text.quoted stack ++ ")"
        | none => "None") ++ " \x7d"
  | .timeout timeoutMs => "Timeout \x7b timeout_ms: " ++ toString timeoutMs ++ " \x7d"
  | .invalidVariableName => "InvalidVariableName"
  | .marshal message => "Marshal(" ++ Text.quoted message ++ ")"
  | .hostNotAllowed host => "HostNotAllowed \x7b host: " ++ Text.quoted host ++ " \x7d"
  | .invalidUrl url reason =>
    "InvalidUrl \x7b url: " ++ Text.quoted url ++ ", reason: " ++ Text.quoted reason ++ " \x7d"
  | .file fault => "Io(" ++ fault.debug ++ ")"
  | .json fault => "Json(Error(" ++ Text.quoted fault.message ++ ", line: 0, column: 0))"
  | .http report => "Http(" ++ report ++ ")"
  | .other message => message

end Failure

end ScriptSandbox
