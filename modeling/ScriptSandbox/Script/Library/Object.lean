import ScriptSandbox.Script.Functions

/-!
Objects as scripts handle them: their properties, their parents, and how far they may change.
-/

namespace ScriptSandbox.Script.Library

open Execution

def expectObject (value : Value) : Execution Ref :=
  match value with
  | .object ref => pure ref
  | _ => throwType "not an object"

def tagOf (kind : Kind) : String :=
  match kind with
  | .error => "Error"
  | .boxed (.boolean _) => "Boolean"
  | .boxed (.integer _) => "Number"
  | .boxed (.number _) => "Number"
  | .boxed (.text _) => "String"
  | .date _ => "Date"
  | .regexp .. => "RegExp"
  | .argumentList => "Arguments"
  | kind => if kind.calls then "Function" else "Object"

variable [Engine]

def objectText (value : Value) : Execution Units := do
  let wrap (tag : Units) : Units := Units.ofString "[object " ++ tag ++ Units.ofString "]"
  match value with
  | .undefined => return Units.ofString "[object Undefined]"
  | .null => return Units.ofString "[object Null]"
  | value =>
    let ref ← value.toObject
    let builtin ← if ← (Value.object ref).isArray then pure "Array" else do pure (tagOf (← kindOf ref))
    match ← (Value.object ref).get WellKnown.toStringTag.key with
    | .text tag => return wrap tag
    | _ => return wrap (Units.ofString builtin)

def listed (ref : Ref) : Execution (List (Key × Value)) := do
  let keys ← ref.keys
  keys.filterMapM fun key => do
    if key.isSymbol then return none
    else match ← ref.getOwn key with
      | some property =>
        if property.enumerable then return some (key, ← (Value.object ref).get key) else return none
      | none => return none

def listedKeys (ref : Ref) : Execution (List Key) := do
  (← ref.keys).filterM fun key => do
    if key.isSymbol then return false
    else return ((← ref.getOwn key).map (·.enumerable)).getD false

def arrayOf (values : List Value) : Execution Value := newArrayOf values.toArray

def pairOf (a b : Value) : Execution Value := newArrayOf #[a, b]

def assign (target : Ref) (sources : List Value) : Execution Unit := do
  for source in sources do
    match source with
    | .undefined => pure ()
    | .null => pure ()
    | source =>
      let ref ← source.toObject
      for key in ← ref.keys do
        match ← ref.getOwn key with
        | some property =>
          if property.enumerable then target.put key (← (Value.object ref).get key)
        | none => pure ()

def defineAll (target : Ref) (descriptors : Value) : Execution Unit := do
  let source ← descriptors.toObject
  let found ← (← source.keys).filterMapM fun key => do
    match ← source.getOwn key with
    | some property =>
      if property.enumerable then
        return some (key, ← toDescriptor (← (Value.object source).get key))
      else return none
    | none => return none
  for (key, descriptor) in found do
    target.defineOrThrow key descriptor

/-- Takes from all properties the right to be redefined, and if wanted to be changed. -/
def lock (ref : Ref) (freezes : Bool) : Execution Unit := do
  if !(← ref.preventExtensions) then throwType "proxy preventExtensions handler returned false"
  for key in ← ref.keys do
    match ← ref.getOwn key with
    | some property =>
      let isData := match property.content with
        | .value _ => true
        | .accessor .. => false
      ref.defineOrThrow key { (default : Descriptor) with
        configurable := some false, writable := if freezes && isData then some false else none }
    | none => pure ()

def isLocked (ref : Ref) (frozen : Bool) : Execution Bool := do
  if ← ref.isExtensible then return false
  else
    let open_ ← (← ref.keys).anyM fun key => do
      match ← ref.getOwn key with
      | some property =>
        let changes := match property.content with
          | .value _ => property.writable
          | .accessor .. => false
        return property.configurable || (frozen && changes)
      | none => return false
    return !open_

def parentArgument (value : Value) : Execution (Option Ref) :=
  match value with
  | .object ref => pure (some ref)
  | .null => pure none
  | _ => throwType "not a prototype"

/-- Values grouped by the text of a key, in the order of their first use. -/
def grouped (values : Array Value) (function : Value) : Execution (List (Key × List Value)) := do
  if !(← isCallable function) then throwType "not a function"
  let mut groups : List (Key × List Value) := []
  for (value, index) in values.toList.zipIdx do
    let key ← (← call function .undefined #[value, .ofNat index]).toKey
    groups := if groups.any (·.1 == key) then
        groups.map fun (k, found) => if k == key then (k, found ++ [value]) else (k, found)
      else groups ++ [(key, [value])]
  return groups

def objectStatics : List Method := [
  method "assign" 2 fun call => do
    let target ← call.first.toObject
    assign target (call.arguments.toList.drop 1)
    return .object target,
  method "create" 2 fun call => do
    match call.first with
    | .object _ | .null =>
      let ref ← allocate (Object.create .ordinary (← parentArgument call.first))
      if !call.second.isUndefined then defineAll ref call.second
      return .object ref
    | _ => throwType "not a prototype",
  method "defineProperty" 3 fun call => do
    let ref ← expectObject call.first
    let key ← call.second.toKey
    ref.defineOrThrow key (← toDescriptor (call.argument 2))
    return call.first,
  method "defineProperties" 2 fun call => do
    defineAll (← expectObject call.first) call.second
    return call.first,
  method "entries" 1 fun call => do
    let pairs ← (← listed (← call.first.toObject)).mapM fun (key, value) => pairOf key.toValue value
    arrayOf pairs,
  method "freeze" 1 fun call => do
    match call.first with
    | .object ref =>
      lock ref true
      return call.first
    | other => return other,
  method "fromEntries" 1 fun call => do
    let ref ← newObject .ordinary .objectPrototype
    let iteration ← iterate call.first false
    iteration.fold () fun _ entry => do
      match entry with
      | .object _ => ref.create (← (← entry.get (.index 0)).toKey) (← entry.get (.index 1))
      | _ => throwType "not an object"
    return .object ref,
  method "getOwnPropertyDescriptor" 2 fun call => do
    let ref ← call.first.toObject
    match ← ref.getOwn (← call.second.toKey) with
    | some property => fromProperty property
    | none => return .undefined,
  method "getOwnPropertyDescriptors" 1 fun call => do
    let ref ← call.first.toObject
    let result ← newObject .ordinary .objectPrototype
    for key in ← ref.keys do
      match ← ref.getOwn key with
      | some property => result.create key (← fromProperty property)
      | none => pure ()
    return .object result,
  method "getOwnPropertyNames" 1 fun call => do
    let keys ← (← call.first.toObject).keys
    arrayOf ((keys.filter (!·.isSymbol)).map Key.toValue),
  method "getOwnPropertySymbols" 1 fun call => do
    let keys ← (← call.first.toObject).keys
    arrayOf ((keys.filter Key.isSymbol).map Key.toValue),
  method "getPrototypeOf" 1 fun call => do
    return parentValue (← (← call.first.toObject).parent),
  method "groupBy" 2 fun call => do
    let ref ← allocate (Object.create .ordinary none)
    for (key, values) in ← grouped (← valuesOf call.first) call.second do
      ref.create key (← arrayOf values)
    return .object ref,
  method "hasOwn" 2 fun call => do
    let ref ← call.first.toObject
    return .boolean (← ref.getOwn (← call.second.toKey)).isSome,
  method "is" 2 fun call => return .boolean (Value.identical call.first call.second),
  method "isExtensible" 1 fun call => do
    match call.first with
    | .object ref => return .boolean (← ref.isExtensible)
    | _ => return .boolean false,
  method "isFrozen" 1 fun call => do
    match call.first with
    | .object ref => return .boolean (← isLocked ref true)
    | _ => return .boolean true,
  method "isSealed" 1 fun call => do
    match call.first with
    | .object ref => return .boolean (← isLocked ref false)
    | _ => return .boolean true,
  method "keys" 1 fun call => do
    arrayOf ((← listedKeys (← call.first.toObject)).map Key.toValue),
  method "preventExtensions" 1 fun call => do
    match call.first with
    | .object ref =>
      if ← ref.preventExtensions then return call.first
      else throwType "proxy preventExtensions handler returned false"
    | other => return other,
  method "seal" 1 fun call => do
    match call.first with
    | .object ref =>
      lock ref false
      return call.first
    | other => return other,
  method "setPrototypeOf" 2 fun call => do
    if call.first.isNullish then throwType "not an object"
    let parent ← parentArgument call.second
    match call.first with
    | .object ref =>
      if ← ref.setParent parent then return call.first else throwType "object is not extensible"
    | other => return other,
  method "values" 1 fun call => do
    arrayOf ((← listed (← call.first.toObject)).map (·.2))]

def makeObject : Method :=
  constructor "Object" 1 fun call => do
    let own := match call.newTarget with
      | .object ref => ref = call.callee
      | _ => true
    if !own then return .object (← newFor call.newTarget .objectPrototype .ordinary)
    else if call.first.isNullish then return .object (← newObject .ordinary .objectPrototype)
    else return .object (← call.first.toObject)

def objectTextMethod : Method :=
  method "toString" 0 fun call => return .text (← objectText call.this)

def objectValueMethod : Method :=
  method "valueOf" 0 fun call => return .object (← call.this.toObject)

def objectMethods : List Method := [
  objectTextMethod,
  method "toLocaleString" 0 fun call => do
    let function ← call.this.get toStringKey
    Engine.call function call.this #[],
  objectValueMethod,
  method "hasOwnProperty" 1 fun call => do
    let key ← call.first.toKey
    return .boolean (← (← call.this.toObject).getOwn key).isSome,
  method "isPrototypeOf" 1 fun call => do
    match call.first with
    | .object ref =>
      let wanted ← call.this.toObject
      return .boolean (← hasParent wanted longestChain ref)
    | _ => return .boolean false,
  method "propertyIsEnumerable" 1 fun call => do
    let key ← call.first.toKey
    let found ← (← call.this.toObject).getOwn key
    return .boolean ((found.map (·.enumerable)).getD false),
  method "__defineGetter__" 2 fun call => do
    if !(← isCallable call.second) then throwType "invalid getter"
    (← call.this.toObject).defineOrThrow (← call.first.toKey)
      { (default : Descriptor) with getter := some call.second, enumerable := some true, configurable := some true }
    return .undefined,
  method "__defineSetter__" 2 fun call => do
    if !(← isCallable call.second) then throwType "invalid setter"
    (← call.this.toObject).defineOrThrow (← call.first.toKey)
      { (default : Descriptor) with setter := some call.second, enumerable := some true, configurable := some true }
    return .undefined]

def getParent : Method :=
  method "get __proto__" 0 fun call => do return parentValue (← (← call.this.toObject).parent)

def setParent : Method :=
  method "set __proto__" 1 fun call => do
    if call.this.isNullish then throwType "cannot convert to object"
    match call.this, call.first with
    | .object ref, .object parent =>
      if !(← ref.setParent (some parent)) then throwType "object is not extensible"
    | .object ref, .null => if !(← ref.setParent none) then throwType "object is not extensible"
    | _, _ => pure ()
    return .undefined

/-! ### Operations of the language as functions -/

def reflectMethods : List Method := [
  method "apply" 3 fun call => do
    if !(← isCallable call.first) then throwType "not a function"
    Engine.call call.first call.second (← itemsOf (call.argument 2)),
  method "construct" 2 fun call => do
    if !(← isConstructor call.first) then throwType "not a constructor"
    let newTarget := if 2 < call.count then call.argument 2 else call.first
    if !(← isConstructor newTarget) then throwType "not a constructor"
    Engine.construct call.first (← itemsOf call.second) newTarget,
  method "defineProperty" 3 fun call => do
    let ref ← expectObject call.first
    let key ← call.second.toKey
    return .boolean (← ref.define key (← toDescriptor (call.argument 2))).isNone,
  method "deleteProperty" 2 fun call => do
    let ref ← expectObject call.first
    return .boolean (← ref.delete (← call.second.toKey)),
  method "get" 2 fun call => do
    let ref ← expectObject call.first
    let receiver := if 2 < call.count then call.argument 2 else call.first
    getFrom (← call.second.toKey) receiver proxyDepth ref,
  method "getOwnPropertyDescriptor" 2 fun call => do
    let ref ← expectObject call.first
    match ← ref.getOwn (← call.second.toKey) with
    | some property => fromProperty property
    | none => return .undefined,
  method "getPrototypeOf" 1 fun call => do
    return parentValue (← (← expectObject call.first).parent),
  method "has" 2 fun call => do
    let ref ← expectObject call.first
    return .boolean (← ref.has (← call.second.toKey)),
  method "isExtensible" 1 fun call => do
    return .boolean (← (← expectObject call.first).isExtensible),
  method "ownKeys" 1 fun call => do
    arrayOf ((← (← expectObject call.first).keys).map Key.toValue),
  method "preventExtensions" 1 fun call => do
    return .boolean (← (← expectObject call.first).preventExtensions),
  method "set" 3 fun call => do
    let ref ← expectObject call.first
    let receiver := if 3 < call.count then call.argument 3 else call.first
    return .boolean (← setFrom (← call.second.toKey) (call.argument 2) receiver proxyDepth ref).isNone,
  method "setPrototypeOf" 2 fun call => do
    let ref ← expectObject call.first
    return .boolean (← ref.setParent (← parentArgument call.second))]

def makeProxyRef (target handler : Value) : Execution Ref := do
  let target ← expectObject target
  let handler ← expectObject handler
  let kind ← kindOf target
  let constructs ← isConstructor (.object target)
  allocate (Object.create (.proxy (some target) (some handler) kind.calls constructs) none)

def makeProxy : Method :=
  constructor "Proxy" 2 fun call => do
    if call.newTarget.isUndefined then throwType "constructor requires 'new'"
    else return .object (← makeProxyRef call.first call.second)

def proxyStatics : List Method := [
  method "revocable" 2 fun call => do
    let proxy ← makeProxyRef call.first call.second
    let revoke ← makeNative Internal.revokeProxy.id "" 0 #[.object proxy]
    newPlain [("proxy", .object proxy), ("revoke", revoke)]]

def revokeProxy : Method :=
  method "" 0 fun call => do
    match call.data.toList with
    | .object ref :: _ =>
      modifyObject ref fun object => match object.kind with
        | .proxy _ _ calls constructs => { object with kind := .proxy none none calls constructs }
        | _ => object
    | _ => pure ()
    return .undefined

/-! ### Functions -/

def nativeText (name : Units) : Units :=
  Units.ofString "function " ++ name ++ Units.ofString "() \x7b\n    [native code]\n\x7d"

def functionText (value : Value) : Execution Units := do
  match value with
  | .object ref =>
    match ← kindOf ref with
    | .closure closure => return closure.code.source
    | kind =>
      if kind.calls then
        match ← value.get nameKey with
        | .undefined => return nativeText #[]
        | name => return nativeText (← name.toUnits)
      else throwType "not a function"
  | _ => throwType "not a function"

def functionMethods : List Method := [
  method "apply" 2 fun call => do
    if !(← isCallable call.this) then throwType "not a function"
    let items ← if call.second.isNullish then pure #[] else itemsOf call.second
    Engine.call call.this call.first items,
  method "bind" 1 fun call => do
    match call.this with
    | .object target =>
      if !(← isCallable call.this) then throwType "not a function"
      let first := call.arguments.extract 1 call.arguments.size
      let length ← match ← target.getOwn lengthKey with
        | some _ => do
          match ← call.this.get lengthKey with
          | .integer n => pure (Value.ofInt (max 0 (n - first.size)))
          | .number x => pure (Value.ofFloat (max 0 (x - Float.ofNat first.size)))
          | _ => pure (.integer 0)
        | none => pure (.integer 0)
      let name ← match ← call.this.get nameKey with
        | .text name => pure name
        | _ => pure #[]
      let name := Units.ofString "bound " ++ name
      charge (textSize name)
      let parent ← target.parent
      let properties := ((Properties.empty.insert lengthKey (.steady length)).insert nameKey
        (.steady (.text name)))
      let ref ← allocate { kind := .bound target call.first first, parent, extensible := true, properties }
      return .object ref
    | _ => throwType "not a function",
  method "call" 1 fun call => do
    if !(← isCallable call.this) then throwType "not a function"
    Engine.call call.this call.first (call.arguments.extract 1 call.arguments.size),
  method "toString" 0 fun call => return .text (← functionText call.this)]

def hasInstance : Method :=
  method "[Symbol.hasInstance]" 1 fun call => do
    return .boolean (← ordinaryInstance call.first call.this proxyDepth)

def functionFrom (lead : String) (arguments : Array Value) : Execution Value := do
  let texts ← arguments.toList.mapM Value.toUnits
  let body := texts.getLast?.getD #[]
  let parameters := Units.join (Units.ofString ",") texts.dropLast
  let source := Units.ofString ("(" ++ lead ++ " anonymous(") ++ parameters ++
    Units.ofString "\n) \x7b\n" ++ body ++ Units.ofString "\n\x7d)"
  Engine.evaluate source

def makeFunction : Method := constructor "Function" 1 fun call => functionFrom "function" call.arguments

def makeGeneratorFunction : Method :=
  constructor "GeneratorFunction" 1 fun call => functionFrom "function *" call.arguments

def makeAsyncFunction : Method :=
  constructor "AsyncFunction" 1 fun call => functionFrom "async function" call.arguments

def makeAsyncGeneratorFunction : Method :=
  constructor "AsyncGeneratorFunction" 1 fun call => functionFrom "async function *" call.arguments

def functionPrototypeCall : Method := method "" 0 fun _ => return .undefined

end ScriptSandbox.Script.Library
