import ScriptSandbox.Script.Iteration

/-!
Making functions and promises. A promise remembers how it was settled; what waits for it never runs,
because an evaluation ends before any of that.
-/

namespace ScriptSandbox.Script

open Execution

def functionParent (code : Code) : Intrinsic :=
  match code.generator, code.async with
  | true, true => .asyncGeneratorFunctionPrototype
  | true, false => .generatorFunctionPrototype
  | false, true => .asyncFunctionPrototype
  | false, false => .functionPrototype

def Code.constructs (code : Code) : Bool :=
  !code.generator && !code.async &&
    match code.kind with
    | .ordinary => true
    | .constructor _ => true
    | _ => false

def functionProperties (name : Units) (length : Nat) : Properties :=
  (Properties.empty.insert lengthKey (.steady (.ofNat length))).insert nameKey (.steady (.text name))

def makeClosure (closure : Closure) : Execution Ref := do
  let code := closure.code
  let properties := functionProperties (Units.ofString code.name) code.arity
  let ref ← allocate { kind := .closure closure, parent := some (functionParent code).ref
                       extensible := true, properties }
  if code.generator then
    let parent := if code.async then Intrinsic.asyncGeneratorPrototype else .generatorPrototype
    let prototype ← newObject .ordinary parent
    storeProperty ref prototypeKey
      { content := .value (.object prototype), writable := true, enumerable := false, configurable := false }
  else if code.kind = .ordinary && !code.async then
    let prototype ← newObject .ordinary .objectPrototype
    defineHidden prototype constructorKey (.object ref)
    storeProperty ref prototypeKey
      { content := .value (.object prototype), writable := true, enumerable := false, configurable := false }
  return ref

def makeNative (id : Nat) (name : String) (length : Nat) (data : Array Value) : Execution Value := do
  let ref ← allocate { kind := .native id false data, parent := some Intrinsic.functionPrototype.ref
                       extensible := true
                       properties := functionProperties (Units.ofString name) length }
  return .object ref

def isConstructor (value : Value) : Execution Bool := do
  match value with
  | .object ref =>
    match ← kindOf ref with
    | .closure closure => return closure.code.constructs
    | .native _ constructs _ => return constructs
    | .bound target _ _ => boundConstructs longestChain target
    | .proxy _ _ _ constructs => return constructs
    | _ => return false
  | _ => return false
where
  boundConstructs : Nat → Ref → Execution Bool
    | 0, _ => return false
    | steps + 1, ref => do
      match ← kindOf ref with
      | .closure closure => return closure.code.constructs
      | .native _ constructs _ => return constructs
      | .bound target _ _ => boundConstructs steps target
      | .proxy _ _ _ constructs => return constructs
      | _ => return false

def nameFunction (value : Value) (lead : String) (key : Key) : Execution Unit := do
  match value, key with
  | .object ref, key =>
    let description ← match key with
      | .symbol id => do
        match ← gets fun machine => machine.symbols.getD id none with
        | some text => pure (Units.ofString "[" ++ text ++ Units.ofString "]")
        | none => pure #[]
      | key => pure key.toUnits
    let object ← objectAt ref
    match object.kind with
    | .closure _ =>
      match object.properties.find? nameKey with
      | some { content := .value (.text current), .. } =>
        if current.isEmpty || lead != "" then
          storeProperty ref nameKey (.steady (.text (Units.ofString lead ++ description)))
      | _ => pure ()
    | _ => pure ()
  | _, _ => pure ()

def appendTo (array value : Value) : Execution Unit := do
  match array with
  | .object ref =>
    note 16
    modifyObject ref fun object =>
      match object with
      | { kind := .array elements length fixedLength, parent, extensible, properties } =>
        { kind := .array (elements.push value) (length + 1) fixedLength, parent, extensible, properties }
      | other => other
  | _ => pure ()

/-! ### Promises -/

def newPromise (state : PromiseState) : Execution Ref := newObject (.promise state) .promisePrototype

variable [Engine]

/-- Settles a promise by a value; one that itself promises something leaves it pending. -/
def settlePromise (promise : Ref) (value : Value) : Execution Unit := do
  match value with
  | .object ref =>
    if ref = promise then
      setKind promise (.promise (.rejected (← makeError .typeError (Units.ofString "promise self resolution"))))
    else
      match ← attempt (value.get (.ofString "then")) with
      | .value found =>
        if !(← isCallable found) then setKind promise (.promise (.fulfilled value))
      | .thrown reason => setKind promise (.promise (.rejected reason))
      | .stopped reason => stop reason
  | other => setKind promise (.promise (.fulfilled other))

def awaitValue (value : Value) : Execution Unit := do
  match value with
  | .object ref =>
    match ← kindOf ref with
    | .promise _ => discard <| value.get constructorKey
    | _ => discard <| value.get (.ofString "then")
  | _ => pure ()

end ScriptSandbox.Script
