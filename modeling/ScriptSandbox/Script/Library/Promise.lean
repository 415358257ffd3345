import ScriptSandbox.Script.Library.Array

/-!
Promises. Settling one is remembered, but what waits for it never runs: an evaluation ends before that.
-/

namespace ScriptSandbox.Script.Library

open Execution

variable [Engine]

structure Capability where
  promise : Value
  resolve : Value
  reject : Value

/-- The functions that settle a promise, of which only the first call counts. -/
def settlers (promise : Ref) : Execution (Value × Value) := do
  let settled ← newCell (.boolean false)
  let data := #[Value.object promise, .ofNat settled]
  let resolve ← makeNative Internal.resolvePromise.id "" 1 data
  let reject ← makeNative Internal.rejectPromise.id "" 1 data
  return (resolve, reject)

def readCell (value : Value) : Execution Value := do
  match value with
  | .integer n => gets fun machine => machine.cells.getD n.toNat .undefined
  | _ => return .undefined

def writeCell (place value : Value) : Execution Unit := do
  match place with
  | .integer n =>
    modify fun machine => { machine with cells := machine.cells.setIfInBounds n.toNat value }
  | _ => pure ()

def settler (name : String) (settle : [Engine] → Ref → Value → Execution Unit) : Method :=
  method name 1 fun call => do
    let settled := call.data.getD 1 .undefined
    if (← readCell settled).truthy then return .undefined
    else
      writeCell settled (.boolean true)
      match call.data.getD 0 .undefined with
      | .object promise =>
        settle promise call.first
        return .undefined
      | _ => return .undefined

def resolveMethod : Method := settler "" settlePromise

def rejectMethod : Method := settler "" fun promise reason => setKind promise (.promise (.rejected reason))

def newCapability (maker : Value) : Execution Capability := do
  if Value.same maker Intrinsic.promiseConstructor.value then
    let promise ← newPromise .pending
    let (resolve, reject) ← settlers promise
    return { promise := .object promise, resolve, reject }
  else if !(← isConstructor maker) then throwType "not a constructor"
  else
    let resolve ← newCell .undefined
    let reject ← newCell .undefined
    let executor ← makeNative Internal.capability.id "" 2 #[.ofNat resolve, .ofNat reject]
    let promise ← Engine.construct maker #[executor] maker
    let resolve ← readCell (.ofNat resolve)
    let reject ← readCell (.ofNat reject)
    expectFunction resolve
    expectFunction reject
    return { promise, resolve, reject }

def capabilityMethod : Method :=
  method "" 2 fun call => do
    let resolve := call.data.getD 0 .undefined
    let reject := call.data.getD 1 .undefined
    if !(← readCell resolve).isUndefined || !(← readCell reject).isUndefined then
      throwType "resolving function already set"
    else
      writeCell resolve call.first
      writeCell reject call.second
      return .undefined

def speciesOf (object usual : Value) : Execution Value := do
  match ← object.get constructorKey with
  | .undefined => return usual
  | .object ref =>
    match ← (Value.object ref).get WellKnown.species.key with
    | .undefined => return usual
    | .null => return usual
    | found => if ← isConstructor found then return found else throwType "not a constructor"
  | _ => throwType "not an object"

def interruptedError : Execution Value := makeError .internalError (Units.ofString "interrupted")

/-- A promise whose executor runs at once; whatever ends the executor rejects the promise. -/
def makePromise : Method :=
  constructor "Promise" 1 fun call => do
    expectFunction call.first
    if call.newTarget.isUndefined then throwType "constructor requires 'new'"
    else
      let promise ← newFor call.newTarget .promisePrototype (.promise .pending)
      let (resolve, reject) ← settlers promise
      match ← attempt (Engine.call call.first .undefined #[resolve, reject]) with
      | .value _ => pure ()
      | .thrown reason => discard <| Engine.call reject .undefined #[reason]
      | .stopped .interrupted => discard <| Engine.call reject .undefined #[← interruptedError]
      | .stopped reason => stop reason
      return .object promise

def isPromise (value : Value) : Execution Bool := do
  match value with
  | .object ref =>
    match ← kindOf ref with
    | .promise _ => return true
    | _ => return false
  | _ => return false

/-- A promise for a value; one that is a promise already stays itself. -/
def promiseFor (maker value : Value) : Execution Value := do
  let kept ← if ← isPromise value then do
      pure (Value.same (← value.get constructorKey) maker)
    else pure false
  if kept then return value
  else
    let capability ← newCapability maker
    discard <| Engine.call capability.resolve .undefined #[value]
    return capability.promise

inductive Combination where
  | all | settled | any | race
  deriving DecidableEq

def elementFunction (internal : Internal) (index : Nat) (values counter finish : Value) : Execution Value := do
  let used ← newCell (.boolean false)
  makeNative internal.id "" 1 #[.ofNat index, values, counter, finish, .ofNat used]

/-- Counts an element of a combination as done; the last one settles the result. -/
def countDown (values counter finish : Value) (wrap : Value → Execution Value) : Execution Unit := do
  match ← readCell counter with
  | .integer n =>
    writeCell counter (.integer (n - 1))
    if n = 1 then discard <| Engine.call finish .undefined #[← wrap values]
  | _ => pure ()

def aggregate (values : Value) : Execution Value := do
  let error ← makeError .aggregateError #[]
  match error with
  | .object ref =>
    defineHidden ref (.ofString "errors") values
    return error
  | _ => return error

def elementMethod (wrap finishWith : [Engine] → Value → Execution Value) : Method :=
  method "" 1 fun call => do
    let used := call.data.getD 4 .undefined
    if (← readCell used).truthy then return .undefined
    else
      writeCell used (.boolean true)
      let values := call.data.getD 1 .undefined
      let value ← wrap call.first
      match values with
      | .object ref => ref.create (← (call.data.getD 0 .undefined).toKey) value
      | _ => pure ()
      countDown values (call.data.getD 2 .undefined) (call.data.getD 3 .undefined) finishWith
      return .undefined

def allElementMethod : Method := elementMethod pure pure

def anyElementMethod : Method := elementMethod pure aggregate

def settledElementMethod : Method :=
  elementMethod (fun value => newPlain [("status", "fulfilled"), ("value", value)]) pure

def rejectedElementMethod : Method :=
  elementMethod (fun value => newPlain [("status", "rejected"), ("reason", value)]) pure

def combine (how : Combination) (call : Call) : Execution Value := do
  let maker ← match call.this with
    | .object _ => pure call.this
    | _ => throwType "not an object"
  let capability ← newCapability maker
  let run : Execution Unit := do
    let resolve ← maker.get (.ofString "resolve")
    expectFunction resolve
    let iteration ← iterate call.first false
    let values ← newArrayOf #[]
    let counter := Value.ofNat (← newCell (.integer 1))
    let length ← iteration.fold (0 : Nat) fun index item => do
      let next ← Engine.call resolve maker #[item]
      let functions ← match how with
        | .race => pure #[capability.resolve, capability.reject]
        | .all => do
          let done ← elementFunction .allElement index values counter capability.resolve
          pure #[done, capability.reject]
        | .settled => do
          let done ← elementFunction .settledElement index values counter capability.resolve
          let failed ← elementFunction .rejectedElement index values counter capability.resolve
          pure #[done, failed]
        | .any => do
          let failed ← elementFunction .anyElement index values counter capability.reject
          pure #[capability.resolve, failed]
      if how != .race then
        match ← readCell counter with
        | .integer n => writeCell counter (.integer (n + 1))
        | _ => pure ()
        appendTo values .undefined
      discard <| Engine.call (← next.get (.ofString "then")) next functions
      return index + 1
    let _ := length
    match how with
    | .race => pure ()
    | .any => countDown values counter capability.reject aggregate
    | _ => countDown values counter capability.resolve pure
  match ← attempt run with
  | .value _ => pure ()
  | .thrown reason => discard <| Engine.call capability.reject .undefined #[reason]
  | .stopped reason => stop reason
  return capability.promise

def promiseStatics : List Method := [
  method "resolve" 1 fun call => do
    match call.this with
    | .object _ => promiseFor call.this call.first
    | _ => throwType "not an object",
  method "reject" 1 fun call => do
    match call.this with
    | .object _ =>
      let capability ← newCapability call.this
      discard <| Engine.call capability.reject .undefined #[call.first]
      return capability.promise
    | _ => throwType "not an object",
  method "all" 1 (combine .all),
  method "allSettled" 1 (combine .settled),
  method "any" 1 (combine .any),
  method "try" 1 fun call => do
    let capability ← newCapability call.this
    match ← attempt (Engine.call call.first .undefined (call.arguments.extract 1 call.count)) with
    | .value value => discard <| Engine.call capability.resolve .undefined #[value]
    | .thrown reason => discard <| Engine.call capability.reject .undefined #[reason]
    | .stopped reason => stop reason
    return capability.promise,
  method "race" 1 (combine .race),
  method "withResolvers" 0 fun call => do
    let capability ← newCapability call.this
    newPlain [("promise", capability.promise), ("resolve", capability.resolve),
      ("reject", capability.reject)]]

def constantMethod : Method := method "" 0 fun call => return call.data.getD 0 .undefined

def throwerMethod : Method := method "" 0 fun call => throwValue (call.data.getD 0 .undefined)

/-- Runs a last function, and then goes on with what there was before. -/
def finallyMethod (next : Internal) : Method :=
  method "" 1 fun call => do
    let maker := call.data.getD 0 .undefined
    let result ← Engine.call (call.data.getD 1 .undefined) .undefined #[]
    let promise ← promiseFor maker result
    let function ← makeNative next.id "" 0 #[call.first]
    Engine.call (← promise.get (.ofString "then")) promise #[function]

def thenFinallyMethod : Method := finallyMethod .constant

def catchFinallyMethod : Method := finallyMethod .thrower

def promiseMethods : List Method := [
  method "then" 2 fun call => do
    if !(← isPromise call.this) then throwType "not a Promise"
    else
      let maker ← speciesOf call.this Intrinsic.promiseConstructor.value
      return (← newCapability maker).promise,
  method "catch" 1 fun call => do
    Engine.call (← call.this.get (.ofString "then")) call.this #[.undefined, call.first],
  method "finally" 1 fun call => do
    let maker ← speciesOf call.this Intrinsic.promiseConstructor.value
    let function ← call.this.get (.ofString "then")
    if ← isCallable call.first then
      let after ← makeNative Internal.thenFinally.id "" 1 #[maker, call.first]
      let failed ← makeNative Internal.catchFinally.id "" 1 #[maker, call.first]
      Engine.call function call.this #[after, failed]
    else Engine.call function call.this #[call.first, call.first]]

end ScriptSandbox.Script.Library
