import ScriptSandbox.Script.Operators

/-!
Going through the values that an object gives one after the other.
-/

namespace ScriptSandbox.Script

open Execution

variable [Engine]

structure Iteration where
  iterator : Value
  next : Value

def returnKey : Key := .ofString "return"

def nextName : Key := .ofString "next"

def doneKey : Key := .ofString "done"

def valueKey : Key := .ofString "value"

def iterate (object : Value) (waits : Bool) : Execution Iteration := do
  let plain ← if waits then object.getMethod WellKnown.asyncIterator.key else pure none
  let function ← match plain with
    | some function => pure function
    | none => object.get WellKnown.iterator.key
  if !(← isCallable function) then throwType "value is not iterable"
  else
    let iterator ← call function object #[]
    match iterator with
    | .object _ => return { iterator, next := ← iterator.get nextName }
    | _ => throwType "not an object"

def Iteration.step? (iteration : Iteration) : Execution (Option Value) := do
  let result ← call iteration.next iteration.iterator #[]
  match result with
  | .object _ =>
    if (← result.get doneKey).truthy then return none
    else return some (← result.get valueKey)
  | _ => throwType "iterator must return an object"

def Iteration.close (iteration : Iteration) : Execution Unit := do
  match ← iteration.iterator.getMethod returnKey with
  | none => pure ()
  | some function =>
    match ← call function iteration.iterator #[] with
    | .object _ => pure ()
    | _ => throwType "not an object"

/-- Tells an iterator so because of an error, which matters more than what goes wrong now. -/
def Iteration.closeQuietly (iteration : Iteration) : Execution Unit := do
  match ← attempt iteration.close with
  | .stopped reason => stop reason
  | _ => pure ()

/-- Does something with every value of an iteration, and closes it if that fails. -/
def Iteration.fold (iteration : Iteration) (start : σ) (part : σ → Value → Execution σ) : Execution σ :=
  repeating start fun state => do
    match ← iteration.step? with
    | none => return .inr state
    | some value =>
      match ← attempt (part state value) with
      | .value state => return .inl state
      | .thrown reason =>
        iteration.closeQuietly
        throwValue reason
      | .stopped reason => stop reason

def valuesOf (object : Value) : Execution (Array Value) := do
  let iteration ← iterate object false
  repeating (#[] : Array Value) fun done => do
    match ← iteration.step? with
    | none => return .inr done
    | some value =>
      charge 16
      return .inl (done.push value)

end ScriptSandbox.Script
