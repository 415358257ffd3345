import ScriptSandbox.Script.Realm
import ScriptSandbox.Surface

/-!
What the host gives to every script: `print`, `fetch`, clocks, and functions that only say that they are
disabled. They reach the evaluation at hand by asking the host; outside of one, printing does nothing
and fetching is refused.
-/

namespace ScriptSandbox

open Script Script.Execution

namespace Primitives

/-! ### Printing -/

/-- Writes values with blanks between them and a line end after them. A value whose coercion does not
come to an end with a text is left out. -/
def printWith (coerce : Value → Execution (Array UInt8)) (values : List Value) : Execution Unit := do
  if ← ask .bound then
    printItems values true
    ask (.write #[10])
where
  printItems : List Value → Bool → Execution Unit
    | [], _ => pure ()
    | value :: rest, first => do
      if !first then ask (.write #[32])
      match ← quietly (coerce value) with
      | some bytes => ask (.write bytes)
      | none => pure ()
      printItems rest false

def print : Method :=
  method "print" 0 fun call => do
    printWith scriptBytes call.arguments.toList
    return .undefined

/-! ### Functions without an effect -/

def collect : Method := method "gc" 0 fun _ => return .undefined

/-- Names that scripts expect but that have no meaning here. -/
def disabledNames : List String := ["load", "setTimeout", "clearTimeout"]

def disabled (name : String) : Method :=
  method name 0 fun _ => throwNew .error (name ++ "() is disabled in sandbox mode")

/-! ### Clocks -/

def dateNow : Method :=
  method "now" 0 fun _ => do return .ofFloat (Float.ofInt (← ask .time))

def performanceNow : Method :=
  method "now" 0 fun _ => do return .ofFloat (← ask .uptime)

/-! ### Requests -/

section

variable [Surface]

/-- An option of a request; `null` and `undefined` count as not given. -/
def option? (options : Value) (name : String) : Execution (Option String) := do
  let value ← Surface.get options (.ofString name)
  if value.isNullish then return none else some <$> coercedText value

/-- Reads the options of a request: its method, then its body. -/
def requestOptions (options : Option Value) : Execution (String × Option String) := do
  match options with
  | some (.object ref) =>
    let method ← option? (.object ref) "method"
    let body ← option? (.object ref) "body"
    return (method.getD "GET", body)
  | _ => return ("GET", none)

end

def isSuccess (status : Int) : Bool := 200 ≤ status && status < 300

variable [Engine]

/-- An answer as scripts see it; its headers are not passed on. -/
def responseObject (response : HttpResponse) : Execution Value := do
  let status := response.status.getD 200
  let result ← newObject .ordinary .objectPrototype
  result.put (.ofString "status") (.ofInt status)
  result.put (.ofString "statusText") (.ofString (response.statusText.getD "OK"))
  result.put (.ofString "ok") (.boolean (isSuccess status))
  result.put (.ofString "body") (.ofString (response.body.getD ""))
  result.put (.ofString "headers") (.object (← newObject .ordinary .objectPrototype))
  return .object result

def answered (build : HttpResponse → Execution Value) : Except (List String) HttpResponse → Execution Value
  | .ok response => build response
  | .error reports => throwNew .error ("fetch() failed: " ++ ": ".intercalate reports)

def addressed (options : Execution (String × Option String)) (build : HttpResponse → Execution Value)
    (url : String) : Execution Value := do
  let found ← options
  answered build (← ask (.request { method := found.1, url, body := found.2, headers := [] }))

def spelled (options : Execution (String × Option String)) (build : HttpResponse → Execution Value) :
    Option String → Execution Value
  | none => throwType "fetch() url must be a string"
  | some url => addressed options build url

def requestWith (url : Option (Execution String)) (options : Execution (String × Option String))
    (build : HttpResponse → Execution Value) : Execution Value := do
  if !(← ask .bound) then throwNew .error "fetch() called outside sandbox context"
  else if !(← ask .callback) then
    throwNew .error "fetch() is not enabled - HTTP callback not configured"
  else
    match url with
    | none => throwType "fetch() requires at least 1 argument (url)"
    | some url => spelled options build (← quietly url)

def request (arguments : List Value) : Execution Value :=
  requestWith (arguments.head?.map coercedText) (requestOptions arguments.tail.head?) responseObject

def nativeFetch : Method := method "" 0 fun call => request call.arguments.toList

/-- The name under which the function for requests waits to be wrapped. -/
def nativeFetchName : String := "__sandbox_fetch"

/-- Gives every response `text()` and `json()` over its plain `body`. -/
def preludeLines : List String := [
  "\n(() => \x7b\n",
  "    const nativeFetch = globalThis.__sandbox_fetch;\n",
  "    delete globalThis.__sandbox_fetch;\n",
  "    globalThis.fetch = function fetch(...args) \x7b\n",
  "        const response = nativeFetch(...args);\n",
  "        response.text = function text() \x7b return this.body; \x7d;\n",
  "        response.json = function json() \x7b return JSON.parse(this.body); \x7d;\n",
  "        return response;\n",
  "    \x7d;\n",
  "\x7d)();\n"]

def fetchPrelude : String := String.join preludeLines

/-! ### The realm of a session -/

def assign (ref : Ref) (name : String) (value : Value) : Furnish Unit :=
  Realm.property ref (.ofString name) (.plain value)

/-- Adds the primitives to a realm; `fetch` still waits for its prelude. -/
def install : Furnish Unit := do
  let global := Intrinsic.global.ref
  assign global "performance" Intrinsic.performance.value
  let print ← Realm.addFunction print
  assign global "print" (.object print)
  assign global "console" Intrinsic.console.value
  assign Intrinsic.console.ref "log" (.object print)
  assign global "gc" (.object (← Realm.addFunction collect))
  for name in disabledNames do
    assign global name (.object (← Realm.addFunction (disabled name)))
  match ← Realm.objectIn Intrinsic.datePrototype.ref constructorKey with
  | some date => Realm.hidden date "now" (.object (← Realm.addFunction dateNow))
  | none => pure ()
  assign Intrinsic.performance.ref "now" (.object (← Realm.addFunction performanceNow))
  assign global nativeFetchName (.object (← Realm.addFunction nativeFetch))

end Primitives

end ScriptSandbox
