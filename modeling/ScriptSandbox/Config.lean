import ScriptSandbox.Failure
import ScriptSandbox.Text.Blank

/-!
The configuration: limits of a session, and what its scripts may reach over HTTP. `HttpConfig.check`
says what a configuration file may not hold.
-/

namespace ScriptSandbox

structure Limits where
  /-- The script heap in bytes, on top of what an empty session needs. -/
  memoryBytes : Nat
  /-- The budget of an evaluation in milliseconds; zero and negative numbers mean none. -/
  timeoutMs : Int
  /-- The cap on captured console output in bytes. -/
  consoleBytes : Nat
  deriving Repr, DecidableEq

def Limits.default : Limits :=
  { memoryBytes := 50000, timeoutMs := 5000, consoleBytes := 10000 }

structure HttpConfig where
  enabled : Bool
  /-- Host names; an empty list allows every host. -/
  allowedHosts : List String
  userAgent : String
  deriving Repr, DecidableEq

def HttpConfig.default : HttpConfig :=
  { enabled := false, allowedHosts := [], userAgent := "scriptlet/0.1.0" }

structure Config where
  limits : Limits
  http : HttpConfig
  deriving Repr, DecidableEq

def Config.default : Config := { limits := .default, http := .default }

namespace HttpConfig

/-- Whether an entry, trimmed, could be a host name and nothing more. -/
def isBareHost (host : String) : Bool :=
  !host.isEmpty && host.all fun c => c != '/' && c != ':' && c != '@' && !Text.isBlank c

def check (http : HttpConfig) : Except Failure Unit :=
  match (http.allowedHosts.map Text.trim).find? fun host => !isBareHost host with
  | some host => throw (.config s!"allowed_hosts entry {Text.quoted host} is not a bare host name")
  | none =>
    if http.userAgent.isEmpty || http.userAgent.any Text.isControl then
      throw (.config "user_agent must be a non-empty single-line string")
    else pure ()

end HttpConfig

end ScriptSandbox
