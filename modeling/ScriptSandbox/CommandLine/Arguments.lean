import ScriptSandbox.Config
import ScriptSandbox.HostValue

/-!
What a command line asks for, once it is read. Options of an evaluation stand above the configuration:
`EvalArguments.limits` and `EvalArguments.http` say what holds in the end.
-/

namespace ScriptSandbox

inductive OutputFormat where
  | text
  | json
  deriving Repr, DecidableEq

structure EvalArguments where
  /-- The file that holds the script. -/
  file : Option String
  /-- The script itself. -/
  code : Option String
  memoryLimit : Option Nat
  timeoutMs : Option Int
  consoleMaxSize : Option Nat
  allowNet : Bool
  allowedHosts : List String
  /-- Global variables to define first, in order. -/
  «variables» : List (String × HostValue)

inductive ConfigAction where
  /-- Print the configuration. -/
  | contents
  /-- Print where the configuration is kept. -/
  | path
  deriving Repr, DecidableEq

inductive Command where
  | eval (arguments : EvalArguments)
  | init (force : Bool)
  | config (action : ConfigAction)

structure Arguments where
  /-- The file that holds the configuration, if it is not the usual one. -/
  config : Option String
  verbosity : Nat
  format : OutputFormat
  command : Command

namespace EvalArguments

def none : EvalArguments :=
  { file := .none, code := .none, memoryLimit := .none, timeoutMs := .none, consoleMaxSize := .none
    allowNet := false, allowedHosts := [], «variables» := [] }

def limits (arguments : EvalArguments) (configured : Limits) : Limits :=
  { memoryBytes := arguments.memoryLimit.getD configured.memoryBytes
    timeoutMs := arguments.timeoutMs.getD configured.timeoutMs
    consoleBytes := arguments.consoleMaxSize.getD configured.consoleBytes }

/-- What the script may reach: naming hosts enables requests, and replaces the configured hosts. -/
def http (arguments : EvalArguments) (configured : HttpConfig) : HttpConfig :=
  { configured with
    enabled := configured.enabled || arguments.allowNet || !arguments.allowedHosts.isEmpty
    allowedHosts :=
      if arguments.allowedHosts.isEmpty then configured.allowedHosts else arguments.allowedHosts }

end EvalArguments

end ScriptSandbox
