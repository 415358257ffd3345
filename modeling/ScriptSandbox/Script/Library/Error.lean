import ScriptSandbox.Script.Functions

/-!
Errors: what the constructors of errors make, and the text of an error.
-/

namespace ScriptSandbox.Script.Library

open Execution

variable [Engine]

def makeErrorOf (cls : ErrorClass) (call : Call) (message options : Value) : Execution Ref := do
  let target := if call.newTarget.isUndefined then Value.object call.callee else call.newTarget
  let ref ← newFor target cls.prototype .error
  if !message.isUndefined then
    defineHidden ref messageKey (.text (← message.toUnits))
  match options with
  | .object source =>
    if ← source.has (.ofString "cause") then
      defineHidden ref (.ofString "cause") (← options.get (.ofString "cause"))
  | _ => pure ()
  return ref

def errorConstructor (cls : ErrorClass) : Method :=
  match cls with
  | .aggregateError =>
    constructor cls.name 2 fun call => do
      let ref ← makeErrorOf cls call call.second (call.argument 2)
      let errors ← newArrayOf (← valuesOf call.first)
      defineHidden ref (.ofString "errors") errors
      defineHidden ref stackKey (.text traceText)
      return .object ref
  | cls =>
    constructor cls.name 1 fun call => do
      let ref ← makeErrorOf cls call call.first call.second
      defineHidden ref stackKey (.text traceText)
      return .object ref

def errorStatics : List Method := [
  method "captureStackTrace" 1 fun call => do
    match call.first with
    | .object ref =>
      ref.defineOrThrow stackKey (.ofProperty (.hidden (.text traceText)))
      return .undefined
    | _ => throwType "not an object"]

def errorText (value : Value) : Execution Units := do
  match value with
  | .object _ =>
    let name ← match ← value.get nameKey with
      | .undefined => pure (Units.ofString "Error")
      | found => found.toUnits
    let message ← match ← value.get messageKey with
      | .undefined => pure #[]
      | found => found.toUnits
    if name.isEmpty then return message
    else if message.isEmpty then return name
    else return name ++ Units.ofString ": " ++ message
  | _ => throwType "not an object"

def errorMethods : List Method := [
  method "toString" 0 fun call => do newText (← errorText call.this)]

end ScriptSandbox.Script.Library
