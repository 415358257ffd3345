import ScriptSandbox.Script.Compile
import ScriptSandbox.Script.Functions
import ScriptSandbox.Script.Grammar

/-!
What single instructions do that neither call functions nor move control: they take values from the
stack and put others there.
-/

namespace ScriptSandbox.Script

open Execution

/-- Values that an instruction puts on the stack, the last one on top. -/
inductive Pushed where
  | nothing
  | one (value : Value)
  | two (first second : Value)

def Instruction.takes : Instruction → Nat
  | .writeGlobal .. => 1
  | .startGlobal _ => 1
  | .defineGlobalFunction _ => 1
  | .getField _ => 1
  | .setField _ => 2
  | .getIndex => 2
  | .setIndex => 3
  | .delete => 2
  | .getSuper => 2
  | .setSuper => 3
  | .getSecret => 2
  | .setSecret => 3
  | .hasSecret => 2
  | .toKey => 1
  | .requireObject => 0
  | .append => 2
  | .appendHole => 1
  | .appendAll => 2
  | .define => 3
  | .defineField _ => 2
  | .defineMethod .. => 3
  | .defineSecret .. => 3
  | .setParent => 2
  | .copyAll => 2
  | .copyRest => 2
  | .nameBy _ => 2
  | .classStart .. => 1
  | .setFields => 2
  | .setHome => 2
  | .importModule => 1
  | .unary _ => 1
  | .binary _ => 2
  | .addTo _ => 2
  | .addToGlobal _ => 2
  | .toNumeric => 1
  | .count _ => 1
  | .toText => 1
  | _ => 0

def notInitialized (name : String) : Execution α :=
  throwNew .referenceError (name ++ " is not initialized")

def notDefined (name : String) : Execution α :=
  throwNew .referenceError (name ++ " is not defined")

variable [Engine]

/-! ### Global names -/

def readGlobal (name : String) (key : Key) (mustExist : Bool) : Execution Value := do
  let machine ← get
  match machine.globals[name]? with
  | some found =>
    match machine.cells.getD found.cell .undefined with
    | .absent => notInitialized name
    | value => return value
  | none =>
    match lookup machine.heap key longestChain Intrinsic.global.ref with
    | .property property _ => readProperty property Intrinsic.global.value
    | .missing => if mustExist then notDefined name else return .undefined
    | .proxy _ => Intrinsic.global.ref.get key

def setCell (cell : Nat) (value : Value) : Execution Unit := modify fun machine =>
  { machine with cells := machine.cells.setIfInBounds cell value }

def writeGlobal (name : String) (key : Key) (value : Value) (strict : Bool) : Execution Unit := do
  let machine ← get
  match machine.globals[name]? with
  | some found =>
    match machine.cells.getD found.cell .undefined with
    | .absent => notInitialized name
    | _ =>
      if found.constant then throwType ("'" ++ name ++ "' is read-only") else setCell found.cell value
  | none =>
    if strict && !(← Intrinsic.global.ref.has key) then notDefined name
    else Intrinsic.global.value.put key value strict

def startGlobal (name : String) (value : Value) : Execution Unit := do
  match (← get).globals[name]? with
  | some found => setCell found.cell value
  | none => pure ()

def redeclared (name : String) : Execution α :=
  throwNew .syntaxError ("redeclaration of '" ++ name ++ "'")

def declareNames (names : GlobalNames) (deletable : Bool) : Execution Unit := do
  let global := Intrinsic.global.ref
  for (name, _) in names.lexicals do
    if (← get).globals.contains name then redeclared name
    match ← global.getOwn (.ofString name) with
    | some { configurable := false, .. } => redeclared name
    | _ => pure ()
  for name in names.functions ++ names.varNames do
    if (← get).globals.contains name then redeclared name
  for name in names.functions do
    match ← global.getOwn (.ofString name) with
    | some property =>
      let usable := property.configurable || (property.writable && property.enumerable)
      if !usable then throwType ("cannot define function '" ++ name ++ "'")
    | none =>
      if !(← global.isExtensible) then throwType ("cannot define function '" ++ name ++ "'")
  for name in names.varNames do
    match ← global.getOwn (.ofString name) with
    | some _ => pure ()
    | none =>
      if !(← global.isExtensible) then throwType ("cannot define variable '" ++ name ++ "'")
  for (name, constant) in names.lexicals do
    let cell ← newCell .absent
    modify fun machine => { machine with globals := machine.globals.insert name { cell, constant } }
  for name in names.varNames do
    match ← global.getOwn (.ofString name) with
    | some _ => pure ()
    | none =>
      storeProperty global (.ofString name)
        { content := .value .undefined, writable := true, enumerable := true, configurable := deletable }
  for name in names.functions do
    match ← global.getOwn (.ofString name) with
    | some { configurable := false, .. } => pure ()
    | _ =>
      storeProperty global (.ofString name)
        { content := .value .undefined, writable := true, enumerable := true, configurable := deletable }

/-! ### Properties -/

def getIndexed (object key : Value) : Execution Value := do
  match object, key with
  | .object ref, .integer n =>
    if 0 ≤ n then
      let machine ← get
      match (machine.heap.getD ref default).kind with
      | .array elements _ _ =>
        match elements[n.toNat]? with
        | some .absent => object.get (.index n.toNat)
        | some value => return value
        | none => object.get (.index n.toNat)
      | _ => object.get (.index n.toNat)
    else object.get (← key.toKey)
  | .undefined, key => missing "undefined" key
  | .null, key => missing "null" key
  | object, key => object.get (← key.toKey)
where
  missing (kind : String) (key : Value) : Execution Value := do
    match key with
    | .symbol _ => throwType ("cannot read property of " ++ kind)
    | .object _ => throwType ("cannot read property of " ++ kind)
    | key => throwType ("cannot read property '" ++ (← key.toKey).shown ++ "' of " ++ kind)

def setIndexed (object key value : Value) (strict : Bool) : Execution Unit := do
  match object, key with
  | .undefined, key => missing "undefined" key
  | .null, key => missing "null" key
  | object, key => object.put (← key.toKey) value strict
where
  missing (kind : String) (key : Value) : Execution Unit := do
    match key with
    | .symbol _ => throwType ("cannot set property of " ++ kind)
    | .object _ => throwType ("cannot set property of " ++ kind)
    | key => throwType ("cannot set property '" ++ (← key.toKey).shown ++ "' of " ++ kind)

def deleteProperty (object key : Value) (strict : Bool) : Execution Value := do
  let key ← key.toKey
  let ref ← object.toObject
  if ← ref.delete key then return .boolean true
  else if strict then throwType "could not delete property"
  else return .boolean false

def superParent (frame : Frame) : Execution Ref := do
  match frame.home with
  | none => throwNew .syntaxError "super() only valid in derived class"
  | some home =>
    match ← home.parent with
    | some parent => return parent
    | none => throwType "not an object"

def secretKey : Value → Key
  | .symbol id => .secret id
  | _ => .secret 0

def getSecret (object secret : Value) : Execution Value := do
  match object with
  | .object ref =>
    match (← objectAt ref).properties.find? (secretKey secret) with
    | some property =>
      match property.content with
      | .accessor .undefined _ => throwType "no getter for private property"
      | _ => readProperty property object
    | none => throwType "private class field does not exist"
  | _ => throwType "not an object"

def setSecret (object secret value : Value) : Execution Unit := do
  match object with
  | .object ref =>
    match (← objectAt ref).properties.find? (secretKey secret) with
    | some property =>
      match property.content with
      | .accessor _ .undefined => throwType "no setter for private property"
      | .accessor _ setter => discard <| call setter object #[value]
      | .value _ =>
        if property.writable then storeValue ref (secretKey secret) value
        else throwType "private method is read-only"
    | none => throwType "private class field does not exist"
  | _ => throwType "not an object"

def defineSecret (object secret value : Value) (kind : MethodKind) (constant : Bool) : Execution Unit := do
  match object with
  | .object ref =>
    let key := secretKey secret
    let current := (← objectAt ref).properties.find? key
    match kind, current with
    | .plain, none =>
      storeProperty ref key
        { content := .value value, writable := !constant, enumerable := false, configurable := false }
    | .getter, current =>
      let setter := match current with
        | some { content := .accessor _ setter, .. } => setter
        | _ => .undefined
      storeProperty ref key { content := .accessor value setter, writable := false, enumerable := false
                              configurable := false }
    | .setter, current =>
      let getter := match current with
        | some { content := .accessor getter _, .. } => getter
        | _ => .undefined
      storeProperty ref key { content := .accessor getter value, writable := false, enumerable := false
                              configurable := false }
    | .plain, some _ => throwType "private class field already exists"
  | _ => throwType "not an object"

def setHome (function home : Value) : Execution Unit := do
  match function, home with
  | .object ref, .object home =>
    modifyObject ref fun object => match object.kind with
      | .closure closure => { object with kind := .closure { closure with home := some home } }
      | _ => object
  | _, _ => pure ()

def defineMethod (object key function : Value) (kind : MethodKind) (enumerable : Bool) : Execution Unit := do
  setHome function object
  match object with
  | .object ref =>
    let key ← key.toKey
    let descriptor : Descriptor := match kind with
      | .plain => { (default : Descriptor) with
          value := some function, writable := some true, enumerable := some enumerable, configurable := some true }
      | .getter => { (default : Descriptor) with
          getter := some function, enumerable := some enumerable, configurable := some true }
      | .setter => { (default : Descriptor) with
          setter := some function, enumerable := some enumerable, configurable := some true }
    ref.defineOrThrow key descriptor
  | _ => pure ()

def copyProperties (target : Ref) (source : Value) (excluded : List Key) : Execution Unit := do
  match source with
  | .undefined => pure ()
  | .null => pure ()
  | source =>
    let ref ← source.toObject
    for key in ← ref.keys do
      if !excluded.contains key then
        match ← ref.getOwn key with
        | some property =>
          if property.enumerable then target.create key (← (Value.object ref).get key)
        | none => pure ()

/-! ### Functions and classes -/

def sharedCells (frame : Frame) (captures : Array Place) : Array Nat :=
  captures.map fun place =>
    match place with
    | .cell index => frame.cells.getD index 0
    | .captured index => frame.captured.getD index 0
    | .slot _ => 0

def childAt (frame : Frame) (index : Nat) : Code := frame.code.children.getD index default

def closureOf (frame : Frame) (code : Code) : Closure :=
  let inherits := code.kind = .arrow || code.kind = .initializer
  { code, captured := sharedCells frame code.captures
    home := if inherits then frame.home else none
    this := if code.kind = .arrow then frame.this else .undefined
    self := if code.kind = .arrow then frame.self else .undefined
    newTarget := if code.kind = .arrow then frame.newTarget else .undefined
    fields := none }

/-- Makes a class and its prototype under a parent, which is absent if none was written. -/
def classStart (frame : Frame) (code : Code) (parent : Value) : Execution Pushed := do
  let (parentRef, prototypeParent) : Option Ref × Option Ref ← match parent with
    | .absent => pure (some Intrinsic.functionPrototype.ref, some Intrinsic.objectPrototype.ref)
    | .null => pure (some Intrinsic.functionPrototype.ref, none)
    | parent => do
      if !(← isConstructor parent) then throwType "parent class must be constructor"
      let found ← parent.get prototypeKey
      let ref := match parent with
        | .object ref => some ref
        | _ => none
      match found with
      | .object prototype => pure (ref, some prototype)
      | .null => pure (ref, none)
      | _ => throwType "parent prototype must be an object or null"
  let prototype ← allocate (Object.create .ordinary prototypeParent)
  let closure := { closureOf frame code with home := some prototype }
  let properties := functionProperties (Units.ofString code.name) code.arity
  let properties := properties.insert prototypeKey (.fixed (.object prototype))
  let ref ← allocate { kind := .closure closure, parent := parentRef, extensible := true, properties }
  defineHidden prototype constructorKey (.object ref)
  return .two (.object ref) (.object prototype)

def setFields (constructor function : Value) : Execution Unit := do
  match constructor, function with
  | .object ref, .object fields =>
    modifyObject ref fun object => match object.kind with
      | .closure closure => { object with kind := .closure { closure with fields := some fields } }
      | _ => object
  | _, _ => pure ()

def argumentList (frame : Frame) : Execution Value := do
  let entries := frame.arguments.toList.zipIdx.map fun (value, index) => (Key.index index, Property.plain value)
  let properties := entries.foldl (fun properties (key, property) => properties.insert key property)
    Properties.empty
  let properties := properties.insert lengthKey (.hidden (.ofNat frame.arguments.size))
  let properties := properties.insert WellKnown.iterator.key (.hidden Intrinsic.arrayValues.value)
  let callee := Key.ofString "callee"
  let properties := if frame.code.strict then
      properties.insert callee
        { content := .accessor Intrinsic.thrower.value Intrinsic.thrower.value, writable := false
          enumerable := false, configurable := false }
    else properties.insert callee (.hidden frame.self)
  let ref ← allocate { kind := .argumentList, parent := some Intrinsic.objectPrototype.ref
                       extensible := true, properties }
  return .object ref

def templateSite (site : TemplateSite) : Execution Value := do
  let frozen (items : List Value) : Execution Ref := do
    let ref ← newObject (.array #[] items.length true) .arrayPrototype
    for (item, index) in items.zipIdx do
      storeProperty ref (.index index)
        { content := .value item, writable := false, enumerable := true, configurable := false }
    return ref
  let raw ← frozen (site.raw.map Value.text)
  let cooked ← frozen (site.cooked.map fun text => match text with
    | some text => .text text
    | none => .undefined)
  storeProperty cooked (.ofString "raw") (.fixed (.object raw))
  for ref in [raw, cooked] do
    modifyObject ref fun object => { object with extensible := false }
  return .object cooked

def lastIndexKey : Key := .ofString "lastIndex"

def makeRegexp (source flags : Units) (parent : Ref) : Execution Value := do
  match Regexp.compile source flags with
  | .error complaint => throwNew .syntaxError complaint
  | .ok compiled =>
    let ref ← allocate (Object.create (.regexp source flags compiled) (some parent))
    storeProperty ref lastIndexKey
      { content := .value (.integer 0), writable := true, enumerable := false, configurable := false }
    return .object ref

/-- A promise for a module, which there is none of. -/
def importModule (name : Value) : Execution Value := do
  let reason ← match ← attempt name.toUnits with
    | .value name =>
      makeError .referenceError (Units.ofString "could not load module filename '" ++ name ++ Units.ofString "'")
    | .thrown reason => pure reason
    | .stopped reason => stop reason
  return .object (← newPromise (.rejected reason))

/-- Does what an instruction does with the values it takes: `c` was on top, `b` below it, `a` below
that. -/
def perform (instruction : Instruction) (frame : Frame) (a b c : Value) : Execution Pushed := do
  let strict := frame.code.strict
  match instruction with
  | .readGlobal name key => return .one (← readGlobal name key true)
  | .typeOfGlobal name key =>
    return .one (← unaryOperation .typeOf (← readGlobal name key false))
  | .writeGlobal name key =>
    writeGlobal name key c strict
    return .nothing
  | .startGlobal name =>
    startGlobal name c
    return .nothing
  | .defineGlobalFunction name =>
    Intrinsic.global.ref.defineOrThrow (.ofString name)
      { (default : Descriptor) with value := some c }
    return .nothing
  | .deleteGlobal name =>
    if (← get).globals.contains name then return .one (.boolean false)
    else return .one (.boolean (← Intrinsic.global.ref.delete (.ofString name)))
  | .complain complaint =>
    match complaint with
    | .readOnly name => throwType ("'" ++ name ++ "' is read-only")
    | .noSuperBase => throwNew .referenceError "unsupported reference to 'super'"
  | .getField key => return .one (← c.get key)
  | .setField key =>
    b.put key c strict
    return .one c
  | .getIndex => return .one (← getIndexed b c)
  | .setIndex =>
    setIndexed a b c strict
    return .one c
  | .delete => return .one (← deleteProperty b c strict)
  | .getSuper =>
    let parent ← superParent frame
    return .one (← getFrom (← c.toKey) b proxyDepth parent)
  | .setSuper =>
    let parent ← superParent frame
    let key ← b.toKey
    match ← setFrom key c a proxyDepth parent with
    | some refusal => if strict then refuse key refusal
    | none => pure ()
    return .one c
  | .getSecret => return .one (← getSecret b c)
  | .setSecret =>
    setSecret a b c
    return .one c
  | .hasSecret =>
    match b with
    | .object ref => return .one (.boolean ((← objectAt ref).properties.find? (secretKey c)).isSome)
    | _ => throwType "invalid 'in' operand"
  | .toKey => return .one (← c.toKey).toValue
  | .requireObject =>
    if c.isNullish then throwType "cannot convert to object" else return .nothing
  | .newObject => return .one (.object (← newObject .ordinary .objectPrototype))
  | .newArray => return .one (← newArrayOf #[])
  | .append =>
    appendTo b c
    return .one b
  | .appendHole =>
    appendTo c .absent
    return .one c
  | .appendAll =>
    for value in ← valuesOf c do
      appendTo b value
    return .one b
  | .define =>
    match a with
    | .object ref => ref.create (← b.toKey) c
    | _ => pure ()
    return .one a
  | .defineField key =>
    match b with
    | .object ref => ref.create key c
    | _ => pure ()
    return .one b
  | .defineMethod kind enumerable =>
    defineMethod a b c kind enumerable
    return .one a
  | .defineSecret kind constant =>
    defineSecret a b c kind constant
    return .one a
  | .setParent =>
    match b, c with
    | .object ref, .object parent => discard <| ref.setParent (some parent)
    | .object ref, .null => discard <| ref.setParent none
    | _, _ => pure ()
    return .one b
  | .copyAll =>
    match b with
    | .object ref => copyProperties ref c []
    | _ => pure ()
    return .one b
  | .copyRest =>
    let excluded ← (← itemsOf c).toList.mapM Value.toKey
    let ref ← newObject .ordinary .objectPrototype
    copyProperties ref b excluded
    return .one (.object ref)
  | .regexp body flags => return .one (← makeRegexp body flags Intrinsic.regexpPrototype.ref)
  | .templateSite index =>
    match frame.code.sites[index]? with
    | some site => return .one (← templateSite site)
    | none => return .one .undefined
  | .closure child => return .one (.object (← makeClosure (closureOf frame (childAt frame child))))
  | .nameBy lead =>
    nameFunction c lead (← b.toKey)
    return .two b c
  | .classStart child _ => classStart frame (childAt frame child) c
  | .setFields =>
    setFields b c
    return .one b
  | .setHome =>
    setHome c b
    return .two b c
  | .newSecret name => return .one (.symbol (← newSymbol (some (Units.ofString name))))
  | .argumentList => return .one (← argumentList frame)
  | .argumentsFrom index => return .one (← newArrayOf (frame.arguments.extract index frame.arguments.size))
  | .importModule => return .one (← importModule c)
  | .unary operator => return .one (← unaryOperation operator c)
  | .binary operator => return .one (← binaryOperation operator b c)
  | .toNumeric => return .one (← c.toNumeric)
  | .count up => return .one (← countValue up c)
  | .toText => return .one (.text (← c.toUnits))
  | _ => return .nothing

end ScriptSandbox.Script
