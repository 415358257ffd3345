import ScriptSandbox.CommandLine.Usage

/-!
What the program says about itself. `Level.helpText` lists what can be given on a level, and
`Level.versionText` names the command and its version.
-/

namespace ScriptSandbox

def programVersion : String := "0.1.0"

def Parameter.purpose : Parameter → String
  | .config => "Configuration file path [env: SCRIPTLET_CONFIG=]"
  | .verbose => "Verbosity level (-v, -vv, -vvv)"
  | .format => "Output format [default: text] [possible values: text, json]"
  | .file => "Script file to evaluate (\"-\" or omitted reads stdin)"
  | .code => "Evaluate this source text instead of a file"
  | .memoryLimit => "Script heap budget in bytes"
  | .timeoutMs => "Wall-clock budget in milliseconds (0 disables it)"
  | .consoleMaxSize => "Maximum captured console output in bytes"
  | .allowNet => "Enable fetch() through the built-in HTTP client"
  | .allowHost => "Restrict fetch() to these hosts (implies --allow-net)"
  | .var => "Global variables to define before evaluation (NAME=JSON; non-JSON values are strings)"
  | .force => "Force overwrite existing configuration"
  | .help => "Print help"
  | .version => "Print version"

namespace Level

def purpose : Level → String
  | .program => "Sandboxed JavaScript evaluation"
  | .eval => "Evaluate a script in a fresh sandbox"
  | .init => "Initialize a new scriptlet configuration"
  | .config => "Manage configuration"
  | .configContents => "Show current configuration"
  | .configPath => "Show configuration file path"
  | .help => "Print this message or the help of the given subcommand(s)"

def versionText (level : Level) : String := "-".intercalate level.words ++ " " ++ programVersion ++ "\n"

def columns (rows : List (String × String)) : String :=
  let width := (rows.map (·.1.length)).foldl max 0
  String.join (rows.map fun (name, purpose) =>
    "  " ++ name ++ String.ofList (List.replicate (width - name.length) ' ') ++ "  " ++ purpose ++ "\n")

def optionName (parameter : Parameter) : String :=
  match parameter.short with
  | some letter => s!"-{letter}, {parameter.shown}"
  | none => "    " ++ parameter.shown

def usage (level : Level) : String :=
  let operands := match level.positional with
    | some parameter => " " ++ parameter.shown
    | none => if level.children.isEmpty then "" else " <COMMAND>"
  "Usage: " ++ " ".intercalate level.words ++ " [OPTIONS]" ++ operands

def listing (title : String) (rows : List (String × String)) : String :=
  if rows.isEmpty then "" else "\n" ++ title ++ ":\n" ++ columns rows

def helpText (level : Level) : String :=
  level.purpose ++ "\n\n" ++ level.usage ++ "\n" ++
    listing "Commands" (level.children.map fun (name, child) => (name, child.purpose)) ++
    listing "Arguments" (level.positional.toList.map fun parameter =>
      (parameter.shown, parameter.purpose)) ++
    listing "Options" (level.options.map fun parameter => (optionName parameter, parameter.purpose))

end Level

end ScriptSandbox
