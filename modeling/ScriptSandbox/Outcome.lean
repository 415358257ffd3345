import ScriptSandbox.Exception
import ScriptSandbox.Failure
import ScriptSandbox.HostValue.Json
import ScriptSandbox.Json.Writer

/-!
How an evaluation ends: it comes to a value, runs out of time, or throws. Time counts before anything
else. The JSON form names the outcome in its first member.
-/

namespace ScriptSandbox

structure EvalResult where
  value : HostValue
  consoleOutput : String
  consoleTruncated : Bool

inductive EvalOutcome where
  | completed (result : EvalResult)
  | timedOut (timeoutMs : Int)
  | excepted (exception : ScriptException)

namespace EvalOutcome

def isCompleted : EvalOutcome → Bool
  | .completed _ => true
  | _ => false

def toResult : EvalOutcome → Except Failure EvalResult
  | .completed result => .ok result
  | .timedOut timeoutMs => .error (.timeout timeoutMs)
  | .excepted exception =>
    match exception.kind with
    | .syntaxError => .error (.syntaxError exception.message)
    | .script => .error (.script exception.message exception.stack)

/-- The JSON form; the list of requests is reserved and always empty. -/
def toJson : EvalOutcome → Json
  | .completed result =>
    .object [("outcome", .text "completed"), ("value", result.value.toJson),
      ("consoleOutput", .text result.consoleOutput), ("consoleTruncated", .boolean result.consoleTruncated),
      ("httpRequests", .array [])]
  | .timedOut timeoutMs =>
    .object [("outcome", .text "timed_out"), ("timeout_ms", .integer timeoutMs)]
  | .excepted exception =>
    .object [("outcome", .text "excepted"), ("kind", .text exception.kind.name),
      ("message", .text exception.message),
      ("stack", match exception.stack with
        | some stack => .text stack
        | none => .null)]

end EvalOutcome

end ScriptSandbox
