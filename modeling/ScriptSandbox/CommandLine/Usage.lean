/-!
The grammar of the command line: its levels, the parameters that each of them takes, and the ways in
which a command line can fail to be one. Parameters of the program may stand on every level below it.
-/

namespace ScriptSandbox

inductive Parameter where
  | config | verbose | format
  | file | code | memoryLimit | timeoutMs | consoleMaxSize | allowNet | allowHost | var
  | force
  | help | version
  deriving Repr, DecidableEq

namespace Parameter

def long : Parameter → Option String
  | .config => "config"
  | .verbose => "verbose"
  | .format => "format"
  | .file => none
  | .code => "eval"
  | .memoryLimit => "memory-limit"
  | .timeoutMs => "timeout-ms"
  | .consoleMaxSize => "console-max-size"
  | .allowNet => "allow-net"
  | .allowHost => "allow-host"
  | .var => "var"
  | .force => "force"
  | .help => "help"
  | .version => "version"

def short : Parameter → Option Char
  | .config => 'c'
  | .verbose => 'v'
  | .code => 'e'
  | .force => 'f'
  | .help => 'h'
  | .version => 'V'
  | _ => none

def valueName : Parameter → Option String
  | .config => "CONFIG"
  | .format => "FORMAT"
  | .file => "FILE"
  | .code => "CODE"
  | .memoryLimit => "MEMORY_LIMIT"
  | .timeoutMs => "TIMEOUT_MS"
  | .consoleMaxSize => "CONSOLE_MAX_SIZE"
  | .allowHost => "ALLOW_HOSTS"
  | .var => "VARS"
  | _ => none

def takesValue (parameter : Parameter) : Bool := parameter.valueName.isSome

/-- Whether its value may be a negative number; otherwise what starts with a hyphen is no value. -/
def takesNegative (parameter : Parameter) : Bool := parameter = .timeoutMs

def repeats (parameter : Parameter) : Bool :=
  parameter = .verbose || parameter = .allowHost || parameter = .var

def shown (parameter : Parameter) : String :=
  let value := parameter.valueName.getD ""
  match parameter.long with
  | some name =>
    if parameter.takesValue then s!"--{name} <{value}>"
    else if parameter.repeats then s!"--{name}..."
    else s!"--{name}"
  | none => s!"[{value}]"

end Parameter

inductive Level where
  | program
  | eval
  | init
  | config
  | configContents
  | configPath
  | help
  deriving Repr, DecidableEq

namespace Level

def words : Level → List String
  | .program => ["scriptlet"]
  | .eval => ["scriptlet", "eval"]
  | .init => ["scriptlet", "init"]
  | .config => ["scriptlet", "config"]
  | .configContents => ["scriptlet", "config", "show"]
  | .configPath => ["scriptlet", "config", "path"]
  | .help => ["scriptlet", "help"]

def globalOptions : List Parameter := [.config, .verbose, .format, .help, .version]

def options : Level → List Parameter
  | .eval =>
    [.code, .memoryLimit, .timeoutMs, .consoleMaxSize, .allowNet, .allowHost, .var] ++ globalOptions
  | .init => .force :: globalOptions
  | _ => globalOptions

def positional : Level → Option Parameter
  | .eval => some .file
  | _ => none

def children : Level → List (String × Level)
  | .program => [("eval", .eval), ("init", .init), ("config", .config), ("help", .help)]
  | .config => [("show", .configContents), ("path", .configPath), ("help", .help)]
  | _ => []

def child? (level : Level) (name : String) : Option Level := level.children.lookup name

def withLong? (level : Level) (name : String) : Option Parameter :=
  level.options.find? fun parameter => parameter.long == some name

def withShort? (level : Level) (letter : Char) : Option Parameter :=
  level.options.find? fun parameter => parameter.short == some letter

end Level

inductive UsageError where
  | helpWanted (level : Level)
  | versionWanted (level : Level)
  /-- Nothing at all was given where a command is needed. -/
  | nothingGiven (level : Level)
  | commandMissing (level : Level)
  | unknownCommand (name : String)
  | unexpected (argument : String)
  | valueMissing (parameter : Parameter)
  /-- The value is none of those to choose from. -/
  | notOffered (value : String) (parameter : Parameter)
  | invalidValue (value : String) (parameter : Parameter) (reason : String)
  | needlessValue (value : String) (parameter : Parameter)
  | repeated (parameter : Parameter)
  | conflict (parameter other : Parameter)
  deriving Repr, DecidableEq

namespace UsageError

def complaint? : UsageError → Option String
  | .helpWanted _ | .versionWanted _ | .nothingGiven _ => none
  | .commandMissing level =>
    let called := " ".intercalate level.words
    some s!"'{called}' requires a subcommand but one was not provided"
  | .unknownCommand name => some s!"unrecognized subcommand '{name}'"
  | .unexpected argument => some s!"unexpected argument '{argument}' found"
  | .valueMissing parameter =>
    some s!"a value is required for '{parameter.shown}' but none was supplied"
  | .notOffered value parameter => some s!"invalid value '{value}' for '{parameter.shown}'"
  | .invalidValue value parameter reason =>
    some s!"invalid value '{value}' for '{parameter.shown}': {reason}"
  | .needlessValue value parameter =>
    some s!"unexpected value '{value}' for '{parameter.shown}' found; no more were expected"
  | .repeated parameter =>
    some s!"the argument '{parameter.shown}' cannot be used multiple times"
  | .conflict parameter other =>
    some s!"the argument '{parameter.shown}' cannot be used with '{other.shown}'"

def report (error : UsageError) : String := "error: " ++ error.complaint?.getD ""

end UsageError

end ScriptSandbox
