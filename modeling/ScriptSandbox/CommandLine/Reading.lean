import ScriptSandbox.CommandLine.Arguments
import ScriptSandbox.CommandLine.Usage
import ScriptSandbox.HostValue.Json
import ScriptSandbox.Json.Reader

/-!
Reading command lines. A command line is read from left to right, one level after the other; a value
that stands by itself is looked at only when the argument after it has been. Therefore a mistake on the
level below is reported before one in the last value of the level above. `Arguments.read` is the whole
reading.
-/

namespace ScriptSandbox

/-! ### Values -/

namespace Parameter

def addDigits (least greatest : Int) (negative : Bool) : Int → List Char → Except String Int
  | total, [] => .ok total
  | total, c :: rest =>
    if c.isDigit then
      let digit : Int := c.toNat - '0'.toNat
      let total := if negative then total * 10 - digit else total * 10 + digit
      if greatest < total then .error "number too large to fit in target type"
      else if total < least then .error "number too small to fit in target type"
      else addDigits least greatest negative total rest
    else .error "invalid digit found in string"

/-- An integer within bounds; without negative numbers a minus sign is no sign. -/
def readInteger (least greatest : Int) (text : String) : Except String Int :=
  match text.toList with
  | [] => .error "cannot parse integer from empty string"
  | ['+'] | ['-'] => .error "invalid digit found in string"
  | '+' :: digits => addDigits least greatest false 0 digits
  | '-' :: digits =>
    if least < 0 then addDigits least greatest true 0 digits
    else .error "invalid digit found in string"
  | digits => addDigits least greatest false 0 digits

def readSize (text : String) : Except String Nat := Int.toNat <$> readInteger 0 0xFFFFFFFFFFFFFFFF text

def readMilliseconds (text : String) : Except String Int := readInteger (-0x8000000000000000) 0x7FFFFFFFFFFFFFFF text

/-- A variable with its value, which is the text itself unless that is JSON. -/
def readVariable (text : String) : Except String (String × HostValue) :=
  let name := text.toList.takeWhile (· != '=')
  match text.toList.drop name.length with
  | [] => .error "Variable format: NAME=VALUE"
  | _ :: value =>
    if name.isEmpty then .error "Variable name cannot be empty"
    else
      let value := String.ofList value
      match Json.parse? value with
      | some document => .ok (String.ofList name, .ofJson document)
      | none => .ok (String.ofList name, .text value)

def isNumeral (text : List Char) : Bool :=
  let whole := text.takeWhile Char.isDigit
  match whole, text.drop whole.length with
  | _, [] => true
  | [], _ => false
  | _, '.' :: rest =>
    match rest.dropWhile Char.isDigit with
    | [] => true
    | 'e' :: power => !power.isEmpty && power.all Char.isDigit
    | _ => false
  | _, 'e' :: power => !power.isEmpty && power.all Char.isDigit
  | _, _ => false

def checked (parameter : Parameter) (value : String) (result : Except String α) :
    Except UsageError α :=
  result.mapError (.invalidValue value parameter)

def readPath (parameter : Parameter) (value : String) : Except UsageError String :=
  if value.isEmpty then .error (.valueMissing parameter) else .ok value

def readFormat (value : String) : Except UsageError OutputFormat :=
  match value with
  | "text" => .ok .text
  | "json" => .ok .json
  | "" => .error (.valueMissing .format)
  | other => .error (.notOffered other .format)

end Parameter

/-! ### The state of the reading -/

structure Globals where
  config : Option String
  verbosity : Option Nat
  format : Option OutputFormat

/-- What is given further down counts. -/
def Globals.over (inner outer : Globals) : Globals :=
  { config := inner.config.or outer.config
    verbosity := inner.verbosity.or outer.verbosity
    format := inner.format.or outer.format }

structure Reading where
  globals : Globals
  eval : EvalArguments
  force : Bool
  /-- What has been given, in order. -/
  given : List Parameter
  /-- The parameter that was met last, with its value if that has been met too. -/
  waiting : Option (Parameter × Option String)
  /-- Whether everything that follows stands without a name. -/
  trailing : Bool

namespace Reading

def start : Reading :=
  { globals := { config := none, verbosity := none, format := none }
    eval := .none, force := false, given := [], waiting := none, trailing := false }

def greatestCount : Nat := 255

def note (reading : Reading) (parameter : Parameter) : Except UsageError Reading :=
  if !parameter.repeats && reading.given.contains parameter then .error (.repeated parameter)
  else .ok { reading with given := reading.given ++ [parameter] }

def take (reading : Reading) (parameter : Parameter) (value : String) : Except UsageError Reading := do
  let reading ← reading.note parameter
  let globals := reading.globals
  let eval := reading.eval
  match parameter with
  | .config => return { reading with globals := { globals with config := ← parameter.readPath value } }
  | .format => return { reading with globals := { globals with format := ← Parameter.readFormat value } }
  | .file => return { reading with eval := { eval with file := ← parameter.readPath value } }
  | .code => return { reading with eval := { eval with code := some value } }
  | .memoryLimit =>
    let size ← parameter.checked value (Parameter.readSize value)
    return { reading with eval := { eval with memoryLimit := some size } }
  | .timeoutMs =>
    let timeout ← parameter.checked value (Parameter.readMilliseconds value)
    return { reading with eval := { eval with timeoutMs := some timeout } }
  | .consoleMaxSize =>
    let size ← parameter.checked value (Parameter.readSize value)
    return { reading with eval := { eval with consoleMaxSize := some size } }
  | .allowHost => return { reading with eval := { eval with allowedHosts := eval.allowedHosts ++ [value] } }
  | .var =>
    let entry ← parameter.checked value (Parameter.readVariable value)
    return { reading with eval := { eval with «variables» := eval.variables ++ [entry] } }
  | _ => return reading

def raise (level : Level) (reading : Reading) (parameter : Parameter) : Except UsageError Reading := do
  match parameter with
  | .help => throw (.helpWanted level)
  | .version => throw (.versionWanted level)
  | _ =>
    let reading ← reading.note parameter
    let globals := reading.globals
    match parameter with
    | .verbose =>
      let count := min greatestCount (globals.verbosity.getD 0 + 1)
      return { reading with globals := { globals with verbosity := some count } }
    | .allowNet => return { reading with eval := { reading.eval with allowNet := true } }
    | .force => return { reading with force := true }
    | _ => return reading

def settle (reading : Reading) : Except UsageError Reading :=
  match reading.waiting with
  | none => .ok reading
  | some (parameter, none) => .error (.valueMissing parameter)
  | some (parameter, some value) => { reading with waiting := none }.take parameter value

def awaited (reading : Reading) : Option Parameter :=
  match reading.waiting with
  | some (parameter, none) => some parameter
  | _ => none

def readLong (level : Level) (reading : Reading) (body : List Char) : Except UsageError Reading := do
  let name := body.takeWhile (· != '=')
  let value := match body.drop name.length with
    | [] => none
    | _ :: value => some (String.ofList value)
  match level.withLong? (String.ofList name), value with
  | none, _ => throw (.unexpected ("--" ++ String.ofList name))
  | some parameter, value =>
    match parameter.takesValue, value with
    | true, some value => (← reading.settle).take parameter value
    | true, none => return { ← reading.settle with waiting := some (parameter, none) }
    | false, some value => throw (.needlessValue value parameter)
    | false, none => raise level (← reading.settle) parameter

def readShort (level : Level) : Reading → List Char → Except UsageError Reading
  | reading, [] => .ok reading
  | reading, letter :: rest => do
    match level.withShort? letter with
    | none => throw (.unexpected ("-" ++ String.singleton letter))
    | some parameter =>
      let reading ← reading.settle
      if parameter.takesValue then
        match rest with
        | [] => return { reading with waiting := some (parameter, none) }
        | '=' :: value => reading.take parameter (String.ofList value)
        | value => reading.take parameter (String.ofList value)
      else readShort level (← raise level reading parameter) rest

def readPositional (level : Level) (reading : Reading) (argument : String) :
    Except UsageError Reading := do
  let isTaken (parameter : Parameter) : Bool :=
    reading.given.contains parameter || (reading.waiting.map (·.1)) == some parameter
  match level.positional.filter fun parameter => !isTaken parameter with
  | some parameter => return { ← reading.settle with waiting := some (parameter, some argument) }
  | none =>
    if level.children.isEmpty || (reading.trailing && (level.child? argument).isSome) then
      throw (.unexpected argument)
    else throw (.unknownCommand argument)

/-- The end of a level, for which the variable of the environment counts as an option. -/
def finish (reading : Reading) (environment : Option String) : Except UsageError Reading := do
  let reading ← reading.settle
  if environment == some "" && !reading.given.contains .config then throw (.valueMissing .config)
  else return reading

def command (reading : Reading) (level : Level) (environment : Option String) :
    Except UsageError Command :=
  match level with
  | .eval =>
    match reading.given.filter fun parameter => parameter = .file || parameter = .code with
    | first :: second :: _ => .error (.conflict first second)
    | _ => .ok (.eval reading.eval)
  | .init => .ok (.init reading.force)
  | .configContents => .ok (.config .contents)
  | .configPath => .ok (.config .path)
  | .program | .config | .help =>
    if reading.given.isEmpty && environment.isNone then .error (.nothingGiven level)
    else .error (.commandMissing level)

inductive Role where
  | command (level : Level)
  | separator
  | long (body : List Char)
  | short (letters : List Char)
  | value (parameter : Parameter)
  | positional

def role (level : Level) (reading : Reading) (argument : String) : Role :=
  if reading.trailing then .positional
  else match reading.awaited, level.child? argument with
    | none, some child => .command child
    | awaited, _ =>
      let plain : Role := match awaited with
        | some parameter => .value parameter
        | none => .positional
      match argument.toList with
      | ['-', '-'] => .separator
      | '-' :: '-' :: body => .long body
      | '-' :: letters =>
        if letters.isEmpty then plain
        else match awaited with
          | some parameter =>
            if parameter.takesNegative && Parameter.isNumeral letters then plain else .short letters
          | none => .short letters
      | _ => plain

def helpOn (level : Level) : List String → UsageError
  | [] => .helpWanted level
  | name :: rest =>
    match level.child? name with
    | some child => helpOn child rest
    | none => .unknownCommand name

def readFrom (environment : Option String) (level : Level) (reading : Reading) :
    List String → Except UsageError (Globals × Command)
  | [] => do
    let reading ← reading.finish environment
    return (reading.globals, ← reading.command level environment)
  | argument :: rest => do
    match role level reading argument with
    | .command .help => throw (helpOn level rest)
    | .command child =>
      let (inner, command) ← readFrom environment child start rest
      let reading ← reading.finish environment
      return (inner.over reading.globals, command)
    | .separator => readFrom environment level { reading with trailing := true } rest
    | .long body => readFrom environment level (← readLong level reading body) rest
    | .short letters => readFrom environment level (← readShort level reading letters) rest
    | .value parameter =>
      readFrom environment level { reading with waiting := some (parameter, some argument) } rest
    | .positional => readFrom environment level (← readPositional level reading argument) rest

end Reading

def Arguments.read (environment : Option String) (arguments : List String) :
    Except UsageError Arguments := do
  let (globals, command) ← Reading.readFrom environment .program .start arguments
  return {
    config := globals.config.or environment
    verbosity := globals.verbosity.getD 0
    format := globals.format.getD .text
    command }

end ScriptSandbox
