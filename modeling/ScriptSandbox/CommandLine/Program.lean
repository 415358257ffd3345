import ScriptSandbox.CommandLine.Help
import ScriptSandbox.CommandLine.Reading
import ScriptSandbox.CommandLine.Shell
import ScriptSandbox.Config.Document
import ScriptSandbox.Http.Backend
import ScriptSandbox.Session

/-!
The program: it reads its command line and the configuration, and carries out a command. How an
evaluation ends decides the exit code: success, a failure of the script, a mistake in its source text,
or the end of its time.
-/

namespace ScriptSandbox

structure Environment where
  /-- The user's home directory. -/
  home : Option String
  /-- The directory of the user's configurations, if it is not the usual one. -/
  configHome : Option String
  /-- The file that holds the configuration, if it is not the usual one. -/
  config : Option String

namespace Environment

def configDirectory (environment : Environment) : String :=
  match environment.configHome.filter (·.startsWith "/"), environment.home with
  | some directory, _ => directory ++ "/scriptlet"
  | none, some home => home ++ "/.config/scriptlet"
  | none, none => "./.scriptlet"

def configPath (environment : Environment) : String := environment.configDirectory ++ "/config.toml"

end Environment

/-! ### Outcomes -/

namespace EvalOutcome

def exitCode : EvalOutcome → Nat
  | .completed _ => 0
  | .excepted exception => if exception.isSyntax then 2 else 1
  | .timedOut _ => 3

def printed (outcome : EvalOutcome) : String × String :=
  match outcome.toResult with
  | .ok result =>
    (result.consoleOutput ++ (if result.value.isNull then "" else result.value.display ++ "\n"),
      if result.consoleTruncated then "[console output truncated]\n" else "")
  | .error failure =>
    ("", failure.message ++ "\n" ++
      match failure with
      | .script _ (some stack) => Text.trimEnd stack ++ "\n"
      | _ => "")

end EvalOutcome

/-! ### Commands -/

namespace Program

variable {m : Type → Type} [Monad m] (shell : Shell m) (environment : Environment)

abbrev Task (m : Type → Type) := ExceptT Failure m

def filed (attempt : m (Except FileFault α)) : Task m α := do
  match ← (attempt : m _) with
  | .ok result => return result
  | .error fault => throw (.file fault)

def loadConfig (path : String) : Task m Config := do
  MonadExcept.ofExcept (Config.load (← (shell.readFile path : m _)))

def isInput (path : String) : Bool :=
  match path.splitOn "/" with
  | "-" :: rest => rest.all fun name => name = "" || name = "."
  | _ => false

def source (arguments : EvalArguments) : Task m String := do
  match arguments.code, arguments.file.filter fun path => !isInput path with
  | some code, _ => return code
  | none, some path => MonadExcept.ofExcept (Config.fileText (← filed (shell.readFile path)))
  | none, none => MonadExcept.ofExcept (Config.fileText (← (shell.readInput : m _)))

def define (clock : Clock) : Session → List (String × HostValue) → Except Failure Session
  | session, [] => .ok session
  | session, (name, value) :: rest =>
    match session.setVariable clock name value with
    | (.ok (), session) => define clock session rest
    | (.error failure, _) => .error failure

def evaluate (clock : Clock) (transport : Transport) (config : Config) (arguments : EvalArguments)
    (code : String) : Except Failure EvalOutcome := do
  let session := Session.create (arguments.limits config.limits)
  let backend ← HttpBackend.create (arguments.http config.http)
  let session := session.setCallback (backend.map (·.callback transport))
  let session ← define clock session arguments.variables
  return (session.eval clock code).1

def eval (clock : Clock) (transport : Transport) (config : Config) (format : OutputFormat)
    (arguments : EvalArguments) : Task m Nat := do
  let code ← source shell arguments
  let outcome ← MonadExcept.ofExcept (evaluate clock transport config arguments code)
  match format with
  | .text =>
    let (output, errors) := outcome.printed
    shell.print output
    shell.report errors
  | .json => shell.print (outcome.toJson.pretty ++ "\n")
  return outcome.exitCode

def document (config : Config) : Task m String :=
  match config.write? with
  | some text => return text
  | none => throw (.config "out-of-range value for u64 type")

def quickStart : String :=
  "\nQuick start:\n" ++
  "  # Evaluate an expression\n" ++
  "  scriptlet eval -e \"print('hello'); 1 + 2\"\n" ++
  "\n" ++
  "  # Run a script file with a 100 ms budget\n" ++
  "  scriptlet eval --timeout-ms 100 script.js\n" ++
  "\n" ++
  "  # Allow fetch() to a single host\n" ++
  "  scriptlet eval --allow-host api.example.com script.js\n"

/-- Writes the default configuration to its usual place, over another one only if forced. -/
def init (force : Bool) : Task m Nat := do
  let path := environment.configPath
  if !force && (← (shell.isPresent path : m _)) then
    shell.print ("Configuration already exists at: " ++ path ++ "\nUse --force to overwrite\n")
  else
    filed (shell.makeDirectories environment.configDirectory)
    filed (shell.writeFile path (← document .default))
    shell.print ("Created configuration at: " ++ path ++ "\n" ++ quickStart)
  return 0

def showConfig (config : Config) : ConfigAction → Task m Nat
  | .contents => do
    shell.print ((← document config) ++ "\n")
    return 0
  | .path => do
    shell.print (environment.configPath ++ "\n")
    return 0

def perform (clock : Clock) (transport : Transport) (arguments : Arguments) : Task m Nat := do
  let config ← loadConfig shell (arguments.config.getD environment.configPath)
  match arguments.command with
  | .eval eval => Program.eval shell clock transport config arguments.format eval
  | .init force => init shell environment force
  | .config action => showConfig shell environment config action

def answer (error : UsageError) : m Nat := do
  match error with
  | .helpWanted level =>
    shell.print level.helpText
    return 0
  | .versionWanted level =>
    shell.print level.versionText
    return 0
  | .nothingGiven level =>
    shell.report level.helpText
    return 2
  | error =>
    shell.report (error.report ++ "\n\nFor more information, try '--help'.\n")
    return 2

def run (clock : Clock) (transport : Transport) (arguments : List String) : m Nat := do
  match Arguments.read environment.config arguments with
  | .error error => answer shell error
  | .ok arguments =>
    match ← (perform shell environment clock transport arguments).run with
    | .ok code => return code
    | .error failure =>
      shell.report ("Error: " ++ failure.debug ++ "\n")
      return 1

end Program

end ScriptSandbox
