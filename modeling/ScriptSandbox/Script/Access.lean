import ScriptSandbox.Script.Convert

/-!
Changing properties: defining, assigning, removing and listing them. Objects that stand in for others
pass every operation to their handler.
-/

namespace ScriptSandbox.Script

open Execution

/-- What is asked of a property; parts that are left out stay as they are. -/
structure Descriptor where
  value : Option Value
  getter : Option Value
  setter : Option Value
  writable : Option Bool
  enumerable : Option Bool
  configurable : Option Bool
  deriving Inhabited

namespace Descriptor

def ofProperty (property : Property) : Descriptor :=
  match property.content with
  | .value value =>
    { value := some value, getter := none, setter := none, writable := some property.writable
      enumerable := some property.enumerable, configurable := some property.configurable }
  | .accessor getter setter =>
    { value := none, getter := some getter, setter := some setter, writable := none
      enumerable := some property.enumerable, configurable := some property.configurable }

def isAccessor (descriptor : Descriptor) : Bool :=
  descriptor.getter.isSome || descriptor.setter.isSome

def isData (descriptor : Descriptor) : Bool :=
  descriptor.value.isSome || descriptor.writable.isSome

def complete (descriptor : Descriptor) : Property :=
  { content := if descriptor.isAccessor then
      .accessor (descriptor.getter.getD .undefined) (descriptor.setter.getD .undefined)
    else .value (descriptor.value.getD .undefined)
    writable := descriptor.writable.getD false
    enumerable := descriptor.enumerable.getD false
    configurable := descriptor.configurable.getD false }

def applied? (descriptor : Descriptor) (current : Property) : Option Property :=
  let enumerable := descriptor.enumerable.getD current.enumerable
  let configurable := descriptor.configurable.getD current.configurable
  let keepsFlags := !(descriptor.configurable == some true) && enumerable == current.enumerable
  if !current.configurable && !keepsFlags then none
  else match current.content with
    | .value value =>
      if descriptor.isAccessor then
        if !current.configurable then none
        else some { content := .accessor (descriptor.getter.getD .undefined) (descriptor.setter.getD .undefined)
                    writable := false, enumerable, configurable }
      else
        let writable := descriptor.writable.getD current.writable
        let locked := !current.configurable && !current.writable
        if locked && (writable || (descriptor.value.any fun new => !Value.identical new value)) then none
        else some { content := .value (descriptor.value.getD value), writable, enumerable, configurable }
    | .accessor getter setter =>
      if descriptor.isData then
        if !current.configurable then none
        else some { content := .value (descriptor.value.getD .undefined)
                    writable := descriptor.writable.getD false, enumerable, configurable }
      else
        let newGetter := descriptor.getter.getD getter
        let newSetter := descriptor.setter.getD setter
        if !current.configurable && !(Value.identical newGetter getter && Value.identical newSetter setter) then
          none
        else some { content := .accessor newGetter newSetter, writable := false, enumerable, configurable }

end Descriptor

/-! ### Storing -/

/-- The longest run of missing elements that an array keeps as such. -/
def longestGap (size : Nat) : Nat := 1024 + 2 * size

/-- Elements with a value at a position, if the position is near enough to their end. -/
def placeElement? (elements : Array Value) (position : Nat) (value : Value) : Option (Array Value) :=
  if position < elements.size then some (elements.setIfInBounds position value)
  else if position = elements.size then some (elements.push value)
  else if position < elements.size + longestGap elements.size then
    some ((elements ++ Array.replicate (position - elements.size) Value.absent).push value)
  else none

def shorten (object : Object) (elements : Array Value) (fixedLength : Bool) (length : Nat) :
    Object × Bool :=
  let beyond := object.properties.toList.filterMap fun (key, property) =>
    match key with
    | .index n => if length ≤ n then some (n, property) else none
    | _ => none
  let locked := beyond.foldl (fun least (n, property) =>
    if property.configurable then least else max least (n + 1)) length
  let properties := beyond.foldl (fun properties (n, _) =>
    if locked ≤ n then properties.erase (.index n) else properties) object.properties
  let elements := if locked < elements.size then elements.extract 0 locked else elements
  ({ object with kind := .array elements locked fixedLength, properties }, locked = length)

/-- An object with a property stored in it, where arrays keep plain elements apart. -/
def Object.store (object : Object) (key : Key) (property : Property) : Object :=
  match object with
  | { kind := .array elements length fixedLength, parent, extensible, properties } =>
    match key with
    | .index n =>
      let length := max length (n + 1)
      let asProperty (elements : Array Value) : Object :=
        { kind := .array elements length fixedLength, parent, extensible
          properties := properties.insert key property }
      match property.content with
      | .value value =>
        if property.isPlain && (properties.find? key).isNone then
          let size := elements.size
          if n < size + longestGap size then
            match placeElement? elements n value with
            | some elements => { kind := .array elements length fixedLength, parent, extensible, properties }
            | none => { kind := .array #[] length fixedLength, parent, extensible, properties }
          else asProperty elements
        else asProperty (if n < elements.size then elements.setIfInBounds n .absent else elements)
      | .accessor .. => asProperty (if n < elements.size then elements.setIfInBounds n .absent else elements)
    | _ => { kind := .array elements length fixedLength, parent, extensible
             properties := properties.insert key property }
  | { kind, parent, extensible, properties } =>
    { kind, parent, extensible, properties := properties.insert key property }

def Object.storeValue (object : Object) (key : Key) (value : Value) : Object :=
  match object with
  | { kind := .array elements length fixedLength, parent, extensible, properties } =>
    match key with
    | .index n =>
      match elements[n]? with
      | none | some .absent =>
        match properties.position? key with
        | some position =>
          { kind := .array elements length fixedLength, parent, extensible
            properties := properties.setValueAt position value }
        | none => { kind := .array elements length fixedLength, parent, extensible, properties }
      | some _ =>
        { kind := .array (elements.setIfInBounds n value) length fixedLength, parent, extensible, properties }
    | _ =>
      match properties.position? key with
      | some position =>
        { kind := .array elements length fixedLength, parent, extensible
          properties := properties.setValueAt position value }
      | none => { kind := .array elements length fixedLength, parent, extensible, properties }
  | { kind, parent, extensible, properties } =>
    match properties.position? key with
    | some position =>
      { kind, parent, extensible, properties := properties.setValueAt position value }
    | none => { kind, parent, extensible, properties }

def propertySize : Nat := 24

def storeProperty (ref : Ref) (key : Key) (property : Property) : Execution Unit := fun machine =>
  .done (.value () { machine with
    heap := machine.heap.modify ref (·.store key property), charged := machine.charged + propertySize })

def storeValue (ref : Ref) (key : Key) (value : Value) : Execution Unit :=
  modifyObject ref (·.storeValue key value)

def defineHidden (ref : Ref) (key : Key) (value : Value) : Execution Unit :=
  storeProperty ref key (.hidden value)

variable [Engine]

def lengthError : Execution α := throwNew .rangeError "invalid array length"

def arrayLength (value : Value) : Execution Nat := do
  let n ← value.toUInt32
  let x ← value.toFloat
  if Float.ofNat n == x then return n else lengthError

def setArrayLength (ref : Ref) (length : Nat) : Execution Bool := do
  let object ← objectAt ref
  match object.kind with
  | .array elements current fixedLength =>
    if length = current then return true
    else if fixedLength then return false
    else if current < length then
      setKind ref (.array elements length fixedLength)
      return true
    else
      let (object, reached) := shorten object elements fixedLength length
      modifyObject ref fun _ => object
      return reached
  | _ => return true

def defineLength (ref : Ref) (descriptor : Descriptor) : Execution Bool := do
  let length ← match descriptor.value with
    | some value => some <$> arrayLength value
    | none => pure none
  match ← kindOf ref with
  | .array _ current fixedLength =>
    let now : Property := { content := .value (.ofNat current), writable := !fixedLength
                            enumerable := false, configurable := false }
    match { descriptor with value := length.map Value.ofNat }.applied? now with
    | none => return false
    | some after =>
      let reached ← match length with
        | some length => setArrayLength ref length
        | none => pure true
      if !after.writable then
        modifyObject ref fun object => match object.kind with
          | .array elements length _ => { object with kind := .array elements length true }
          | _ => object
      return reached
  | _ => return false

def toElement (element : ElementType) (value : Value) : Execution Value := do
  if element.isBig then return .bigint (← value.toBigInt) else value.toNumber

def writeElement (element : ElementType) (buffer : Ref) (offset length n : Nat) (value : Value) :
    Execution Unit := do
  let value ← toElement element value
  if n < length then
    modifyObject buffer fun object => match object.kind with
      | .buffer bytes => { object with kind := .buffer (element.write bytes (offset + n * element.size) value) }
      | _ => object

def toDescriptor (value : Value) : Execution Descriptor := do
  match value with
  | .object ref =>
    let part (name : String) : Execution (Option Value) := do
      let key := Key.ofString name
      match ← gets fun machine => lookup machine.heap key longestChain ref with
      | .missing => return none
      | _ => return some (← value.get key)
    let flag (name : String) : Execution (Option Bool) := do return (← part name).map (·.truthy)
    let enumerable ← flag "enumerable"
    let configurable ← flag "configurable"
    let found ← part "value"
    let writable ← flag "writable"
    let function (name : String) : Execution (Option Value) := do
      match ← part name with
      | none => return none
      | some .undefined => return some .undefined
      | some found =>
        if ← isCallable found then return some found
        else throwType ("invalid " ++ (if name == "get" then "getter" else "setter"))
    let getter ← function "get"
    let setter ← function "set"
    if (getter.isSome || setter.isSome) && (found.isSome || writable.isSome) then
      throwType "cannot have setter/getter and value or writable"
    else return { value := found, getter, setter, writable, enumerable, configurable }
  | _ => throwType "not an object"

def fromProperty (property : Property) : Execution Value := do
  let flag (b : Bool) : Property := .plain (.boolean b)
  let properties := match property.content with
    | .value value => (Properties.empty.insert (.ofString "value") (.plain value)).insert
        (.ofString "writable") (flag property.writable)
    | .accessor getter setter => (Properties.empty.insert (.ofString "get") (.plain getter)).insert
        (.ofString "set") (.plain setter)
  let properties := (properties.insert (.ofString "enumerable") (flag property.enumerable)).insert
    (.ofString "configurable") (flag property.configurable)
  let ref ← allocate { kind := .ordinary, parent := some Intrinsic.objectPrototype.ref, extensible := true
                       properties }
  return .object ref

/-- Calls the trap of an object that stands in for another; without a trap, `plain` goes on with the
target. -/
def trapped (ref : Ref) (trap : String) (arguments : Ref → List Value) (plain : Ref → Execution α)
    (finish : Value → Execution α) : Execution α := do
  let (target, handler) ← proxyParts ref
  match ← (Value.object handler).getMethod (.ofString trap) with
  | none => plain target
  | some function => finish (← call function (.object handler) (arguments target).toArray)

def isProxy (ref : Ref) : Execution Bool := do
  match ← kindOf ref with
  | .proxy .. => return true
  | _ => return false

/-! ### Operations that a handler may answer -/

def getOwnFrom (key : Key) : Nat → Ref → Execution (Option Property)
  | 0, _ => stackOverflow
  | depth + 1, ref => do
    if ← isProxy ref then
      trapped ref "getOwnPropertyDescriptor" (fun target => [.object target, key.toValue])
        (fun target => getOwnFrom key depth target)
        fun found => do
          if found.isUndefined then return none else return some (← toDescriptor found).complete
    else gets fun machine => ownProperty? machine.heap (machine.heap.getD ref default) key

def Ref.getOwn (ref : Ref) (key : Key) : Execution (Option Property) := getOwnFrom key proxyDepth ref

def extensibleFrom : Nat → Ref → Execution Bool
  | 0, _ => stackOverflow
  | depth + 1, ref => do
    if ← isProxy ref then
      trapped ref "isExtensible" (fun target => [.object target])
        (fun target => extensibleFrom depth target) fun found => return found.truthy
    else return (← objectAt ref).extensible

def Ref.isExtensible (ref : Ref) : Execution Bool := extensibleFrom proxyDepth ref

inductive Refusal where
  | readOnly
  | noSetter
  | notExtensible
  | notConfigurable
  /-- A handler refused. -/
  | handler
  | notObject

inductive Definition where
  | refused (refusal : Refusal)
  | stored (property : Property)
  /-- The length of an array is set. -/
  | length
  /-- An element of a typed array is written. -/
  | element (element : ElementType) (buffer : Ref) (offset length n : Nat) (value : Value)
  | proxy

def definitionOf (heap : Array Object) (ref : Ref) (key : Key) (descriptor : Descriptor) : Definition :=
  let object := heap.getD ref default
  let ordinary : Definition :=
    match ownProperty? heap object key with
    | none => if object.extensible then .stored descriptor.complete else .refused .notExtensible
    | some current =>
      match descriptor.applied? current with
      | some property => .stored property
      | none => .refused .notConfigurable
  match object.kind with
  | .proxy .. => .proxy
  | .array _ length fixedLength =>
    if key == lengthKey then .length
    else match key with
      | .index n => if length ≤ n && fixedLength then .refused .readOnly else ordinary
      | _ => ordinary
  | .view (some element) buffer offset length =>
    match key, descriptor.value with
    | .index n, some value =>
      if n < length then .element element buffer offset length n value else .refused .handler
    | _, _ => ordinary
  | _ => ordinary

def defineFrom (key : Key) (descriptor : Descriptor) : Nat → Ref → Execution (Option Refusal)
  | 0, _ => stackOverflow
  | depth + 1, ref => do
    match ← gets fun machine => definitionOf machine.heap ref key descriptor with
    | .refused refusal => return some refusal
    | .stored property =>
      storeProperty ref key property
      return none
    | .length => return if ← defineLength ref descriptor then none else some .notConfigurable
    | .element element buffer offset length n value =>
      writeElement element buffer offset length n value
      return none
    | .proxy =>
      trapped ref "defineProperty" (fun target => [.object target, key.toValue])
        (fun target => defineFrom key descriptor depth target)
        fun found => return if found.truthy then none else some .handler

def Ref.define (ref : Ref) (key : Key) (descriptor : Descriptor) : Execution (Option Refusal) :=
  defineFrom key descriptor proxyDepth ref

def refuse (key : Key) : Refusal → Execution α
  | .readOnly => throwType ("'" ++ key.shown ++ "' is read-only")
  | .noSetter => throwType "no setter for property"
  | .notExtensible => throwType "object is not extensible"
  | .notConfigurable => throwType "property is not configurable"
  | .handler => throwType "proxy: property not defined"
  | .notObject => throwType "not an object"

def Ref.defineOrThrow (ref : Ref) (key : Key) (descriptor : Descriptor) : Execution Unit := do
  match ← ref.define key descriptor with
  | none => pure ()
  | some refusal => refuse key refusal

def Ref.create (ref : Ref) (key : Key) (value : Value) : Execution Unit :=
  ref.defineOrThrow key (.ofProperty (.plain value))

inductive Writing where
  | refused (refusal : Refusal)
  /-- The property is there and takes the value. -/
  | changed
  /-- The property is new. -/
  | added
  /-- The length of an array is set. -/
  | length
  | proxy

def writingOf (heap : Array Object) (ref : Ref) (key : Key) : Writing :=
  let object := heap.getD ref default
  match object.kind with
  | .proxy .. => .proxy
  | kind =>
    match ownProperty? heap object key with
    | some { content := .accessor .., .. } => .refused .noSetter
    | some { writable := false, .. } => .refused .readOnly
    | some _ =>
      match kind with
      | .array .. => if key == lengthKey then .length else .changed
      | _ => .changed
    | none =>
      if !object.extensible then .refused .notExtensible
      else match kind, key with
        | .array _ length true, .index n => if length ≤ n then .refused .readOnly else .added
        | _, _ => .added

def writeReceiver (key : Key) (value : Value) (receiver : Ref) : Execution (Option Refusal) := do
  match ← gets fun machine => writingOf machine.heap receiver key with
  | .refused refusal => return some refusal
  | .changed =>
    storeValue receiver key value
    return none
  | .added =>
    storeProperty receiver key (.plain value)
    return none
  | .length => receiver.define key { (default : Descriptor) with value := some value }
  | .proxy =>
    match ← receiver.getOwn key with
    | some { content := .accessor .., .. } => return some .noSetter
    | some { writable := false, .. } => return some .readOnly
    | some _ => receiver.define key { (default : Descriptor) with value := some value }
    | none => receiver.define key (.ofProperty (.plain value))

def typedArrayAt (ref : Ref) : Execution (Option (ElementType × Ref × Nat × Nat)) :=
  gets fun machine =>
    match (machine.heap.getD ref default).kind with
    | .view (some element) buffer offset length => some (element, buffer, offset, length)
    | _ => none

def setFrom (key : Key) (value receiver : Value) : Nat → Ref → Execution (Option Refusal)
  | 0, _ => stackOverflow
  | depth + 1, ref => do
    let finish : Execution (Option Refusal) := match receiver with
      | .object receiver => writeReceiver key value receiver
      | _ => return some .notObject
    match ← typedArrayAt ref, key with
    | some (element, buffer, offset, length), .index n =>
      writeElement element buffer offset length n value
      return none
    | _, _ =>
      match ← gets fun machine => lookup machine.heap key longestChain ref with
      | .property property holder =>
        match property.content with
        | .accessor _ setter =>
          match setter with
          | .undefined => return some .noSetter
          | setter =>
            discard <| call setter receiver #[value]
            return none
        | .value _ =>
          if !property.writable then return some .readOnly
          else match receiver with
            | .object target =>
              if target = holder then
                if key == lengthKey then finish
                else
                  storeValue target key value
                  return none
              else finish
            | _ => finish
      | .missing => finish
      | .proxy ref =>
        trapped ref "set" (fun target => [.object target, key.toValue, value, receiver])
          (fun target => setFrom key value receiver depth target)
          fun found => return if found.truthy then none else some .handler

def Ref.set (ref : Ref) (key : Key) (value : Value) : Execution (Option Refusal) :=
  setFrom key value (.object ref) proxyDepth ref

def Ref.put (ref : Ref) (key : Key) (value : Value) : Execution Unit := do
  match ← ref.set key value with
  | none => pure ()
  | some refusal => refuse key refusal

/-- Assigns a property of any value; in lenient code refusals are passed over. -/
def Value.put (target : Value) (key : Key) (value : Value) (strict : Bool) : Execution Unit := do
  let settle (refusal : Option Refusal) : Execution Unit :=
    match refusal with
    | some refusal => if strict then refuse key refusal else pure ()
    | none => pure ()
  match target with
  | .object ref => settle (← setFrom key value target proxyDepth ref)
  | other =>
    match primitiveParent other with
    | some parent =>
      let ownText : Bool := match other, key with
        | .text content, .index n => decide (n < content.size)
        | .text _, key => key == lengthKey
        | _, _ => false
      if ownText then settle (some .readOnly)
      else settle (← setFrom key value target proxyDepth parent.ref)
    | none =>
      let kind := match other with
        | .null => "null"
        | _ => "undefined"
      if key.isSymbol then throwType ("cannot set property of " ++ kind)
      else throwType ("cannot set property '" ++ key.shown ++ "' of " ++ kind)

def Object.erase (object : Object) (key : Key) : Object :=
  match object with
  | { kind := .array elements length fixedLength, parent, extensible, properties } =>
    match key with
    | .index n =>
      { kind := .array (if n < elements.size then elements.setIfInBounds n .absent else elements) length fixedLength
        parent, extensible, properties := properties.erase key }
    | _ => { kind := .array elements length fixedLength, parent, extensible, properties := properties.erase key }
  | { kind, parent, extensible, properties } => { kind, parent, extensible, properties := properties.erase key }

/-- Whether a property may be removed; nothing, if a handler is to be asked. -/
def removable (heap : Array Object) (ref : Ref) (key : Key) : Option Bool :=
  let object := heap.getD ref default
  match object.kind with
  | .proxy .. => none
  | kind =>
    match ownProperty? heap object key with
    | none => some true
    | some property =>
      match kind, key with
      | .view .., .index _ => some false
      | _, _ => some property.configurable

def deleteFrom (key : Key) : Nat → Ref → Execution Bool
  | 0, _ => stackOverflow
  | depth + 1, ref => do
    match ← gets fun machine => removable machine.heap ref key with
    | some true =>
      modifyObject ref (·.erase key)
      return true
    | some false => return false
    | none =>
      trapped ref "deleteProperty" (fun target => [.object target, key.toValue])
        (fun target => deleteFrom key depth target) fun found => return found.truthy

def Ref.delete (ref : Ref) (key : Key) : Execution Bool := deleteFrom key proxyDepth ref

def hasFrom (key : Key) : Nat → Ref → Execution Bool
  | 0, _ => stackOverflow
  | depth + 1, ref => do
    match ← gets fun machine => lookup machine.heap key longestChain ref with
    | .property .. => return true
    | .missing => return false
    | .proxy ref =>
      trapped ref "has" (fun target => [.object target, key.toValue])
        (fun target => hasFrom key depth target) fun found => return found.truthy

def Ref.has (ref : Ref) (key : Key) : Execution Bool := hasFrom key proxyDepth ref

def kindIndices : Kind → List Nat
  | .array elements _ _ =>
    elements.toList.zipIdx.filterMap fun (value, n) => if value.isAbsent then none else some n
  | .boxed (.text text) => List.range text.size
  | .view (some _) _ _ length => List.range length
  | _ => []

/-- The names of own properties: indices in order, then other names, then symbols. -/
def ownKeys (object : Object) : List Key :=
  let keys := object.properties.keys
  let indices := keys.filterMap fun key => match key with
    | .index n => some n
    | _ => none
  let indices := if indices.isEmpty then kindIndices object.kind
    else (kindIndices object.kind ++ indices).mergeSort (· ≤ ·)
  let names := keys.filter fun key => match key with
    | .name _ => true
    | _ => false
  let symbols := keys.filter Key.isSymbol
  let names := match object.kind with
    | .array .. => lengthKey :: names
    | .boxed (.text _) => lengthKey :: names
    | _ => names
  indices.map Key.index ++ names ++ symbols

def itemsOf (value : Value) : Execution (Array Value) := do
  match value with
  | .object _ =>
    let length ← lengthOf value
    repeating ((0 : Nat), (#[] : Array Value)) fun (index, done) => do
      if index < length then
        charge 16
        return .inl (index + 1, done.push (← value.get (.index index)))
      else return .inr done
  | _ => throwType "not an object"

def keysFrom : Nat → Ref → Execution (List Key)
  | 0, _ => stackOverflow
  | depth + 1, ref => do
    let object ← objectAt ref
    match object.kind with
    | .proxy .. =>
      trapped ref "ownKeys" (fun target => [.object target]) (fun target => keysFrom depth target)
        fun found => do
          let items ← itemsOf found
          items.toList.mapM fun item =>
            match item with
            | .text content => return Key.ofUnits content
            | .symbol id => return Key.symbol id
            | _ => throwType "proxy: properties must be strings or symbols"
    | _ => return ownKeys object

def Ref.keys (ref : Ref) : Execution (List Key) := keysFrom proxyDepth ref

def parentFrom : Nat → Ref → Execution (Option Ref)
  | 0, _ => stackOverflow
  | depth + 1, ref => do
    if ← isProxy ref then
      trapped ref "getPrototypeOf" (fun target => [.object target])
        (fun target => parentFrom depth target)
        fun found => match found with
          | .object parent => return some parent
          | .null => return none
          | _ => throwType "not an object or null"
    else return (← objectAt ref).parent

def Ref.parent (ref : Ref) : Execution (Option Ref) := parentFrom proxyDepth ref

def parentValue : Option Ref → Value
  | some ref => .object ref
  | none => .null

def isAmongParents (heap : Array Object) (wanted : Ref) : Nat → Option Ref → Bool
  | 0, _ => false
  | _, none => false
  | steps + 1, some ref =>
    ref = wanted || match (heap.getD ref default) with
      | { kind := .proxy .., .. } => false
      | object => isAmongParents heap wanted steps object.parent

def setParentFrom (parent : Option Ref) : Nat → Ref → Execution Bool
  | 0, _ => stackOverflow
  | depth + 1, ref => do
    let object ← objectAt ref
    match object.kind with
    | .proxy .. =>
      trapped ref "setPrototypeOf" (fun target => [.object target, parentValue parent])
        (fun target => setParentFrom parent depth target) fun found => return found.truthy
    | _ =>
      if object.parent = parent then return true
      else if !object.extensible || ref = Intrinsic.objectPrototype.ref then return false
      else if ← gets fun machine => isAmongParents machine.heap ref longestChain parent then
        throwType "circular prototype chain"
      else
        modifyObject ref fun object => { object with parent }
        return true

def Ref.setParent (ref : Ref) (parent : Option Ref) : Execution Bool :=
  setParentFrom parent proxyDepth ref

def closeFrom : Nat → Ref → Execution Bool
  | 0, _ => stackOverflow
  | depth + 1, ref => do
    if ← isProxy ref then
      trapped ref "preventExtensions" (fun target => [.object target])
        (fun target => closeFrom depth target) fun found => return found.truthy
    else
      modifyObject ref fun object => { object with extensible := false }
      return true

def Ref.preventExtensions (ref : Ref) : Execution Bool := closeFrom proxyDepth ref

def isArrayFrom : Nat → Value → Execution Bool
  | 0, _ => return false
  | depth + 1, value => do
    match value with
    | .object ref =>
      match ← kindOf ref with
      | .array .. => return true
      | .proxy (some target) _ _ _ => isArrayFrom depth (.object target)
      | .proxy none _ _ _ => throwType "revoked proxy"
      | _ => return false
    | _ => return false

def Value.isArray (value : Value) : Execution Bool := isArrayFrom proxyDepth value

def newPlain (members : List (String × Value)) : Execution Value := do
  let properties := members.foldl (fun properties (name, value) =>
    properties.insert (.ofString name) (.plain value)) Properties.empty
  let ref ← allocate { kind := .ordinary, parent := some Intrinsic.objectPrototype.ref, extensible := true
                       properties }
  return .object ref

def iterationResult (value : Value) (done : Bool) : Execution Value :=
  newPlain [("value", value), ("done", .boolean done)]

/-- The parent for objects made by a constructor: what `new` was applied to may name another one. -/
def parentFor (newTarget : Value) (usual : Intrinsic) : Execution Ref := do
  match newTarget with
  | .object _ =>
    match ← newTarget.get prototypeKey with
    | .object ref => return ref
    | _ => return usual.ref
  | _ => return usual.ref

def newFor (newTarget : Value) (usual : Intrinsic) (kind : Kind) : Execution Ref := do
  let parent ← parentFor newTarget usual
  allocate (Object.create kind (some parent))

end ScriptSandbox.Script
