import ScriptSandbox.Script.Functions

/-!
Generators as objects. Asynchronous ones only promise their values, since nothing that waits ever runs.
-/

namespace ScriptSandbox.Script.Library

open Execution

variable [Engine]

def resumeMethod (name : String) (how : Value → Resumption) : Method :=
  method name 1 fun call => do
    match call.this with
    | .object ref =>
      match ← kindOf ref with
      | .generator _ =>
        let (value, ended) ← Engine.resume ref (how call.first)
        iterationResult value ended
      | _ => throwType "not a generator"
    | _ => throwType "not a generator"

def generatorMethods : List Method :=
  [resumeMethod "next" .next, resumeMethod "return" .result, resumeMethod "throw" .throw]

/-- Runs an asynchronous generator as far as its first wait, and promises the rest. -/
def asyncResumeMethod (name : String) : Method :=
  method name 1 fun call => do
    match call.this with
    | .object ref =>
      match ← kindOf ref with
      | .generator (.suspended _ false) =>
        if name = "next" then
          discard <| attemptQuietly (Engine.resume ref (.next call.first))
        return .object (← newPromise .pending)
      | .generator _ => return .object (← newPromise .pending)
      | _ => throwType "not an AsyncGenerator object"
    | _ => throwType "not an AsyncGenerator object"
where
  /-- Goes on after a thrown value, which the promise would hold. -/
  attemptQuietly (part : Execution (Value × Bool)) : Execution Unit := do
    match ← attempt part with
    | .value _ => pure ()
    | .thrown _ => pure ()
    | .stopped reason => stop reason

def asyncGeneratorMethods : List Method :=
  [asyncResumeMethod "next", asyncResumeMethod "return", asyncResumeMethod "throw"]

end ScriptSandbox.Script.Library
