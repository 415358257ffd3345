import ScriptSandbox.Script.Library.Array
import ScriptSandbox.Script.Library.Object

/-!
Maps and sets. Entries keep the order of their insertion, and an iteration sees what is added meanwhile.
-/

namespace ScriptSandbox.Script.Library

open Execution

def tableOf (value : Value) (kind : CollectionKind) : Execution (Ref × Table) := do
  match value with
  | .object ref =>
    match ← kindOf ref with
    | .collection found table => if found = kind then return (ref, table) else throwType "wrong collection"
    | _ => throwType "not a collection"
  | _ => throwType "not a collection"

def collectionOf (value : Value) (kind : CollectionKind) : Execution Ref := do
  match value with
  | .object ref =>
    let known : Bool ← gets fun machine =>
      match (machine.heap.getD ref default).kind with
      | .collection found _ => decide (found = kind)
      | _ => false
    if known then return ref else throwType "wrong collection"
  | _ => throwType "not a collection"

def entrySize : Nat := 64

def changeTable (ref : Ref) (change : Table → Table) : Execution Unit := do
  note entrySize
  modifyObject ref fun object =>
    match object with
    | { kind := .collection kind table, parent, extensible, properties } =>
      { kind := .collection kind (change table), parent, extensible, properties }
    | other => other

def isWeakKey (value : Value) : Execution Bool := do
  match value with
  | .object _ => return true
  | .symbol id => gets fun machine => !machine.registry.any (·.2 == id)
  | _ => return false

variable [Engine]

def checkKey (kind : CollectionKind) (key : Value) : Execution Unit := do
  if kind = .weakMap || kind = .weakSet then
    if !(← isWeakKey key) then throwType "invalid value used as key"

def insertMethod (kind : CollectionKind) (name : String) (pairs : Bool) : Method :=
  method name (if pairs then 2 else 1) fun call => do
    let ref ← collectionOf call.this kind
    checkKey kind call.first
    changeTable ref (·.insert call.first (if pairs then call.second else call.first))
    return call.this

def hasMethod (kind : CollectionKind) : Method :=
  method "has" 1 fun call => do
    return .boolean ((← tableOf call.this kind).2.contains call.first)

def deleteMethod (kind : CollectionKind) : Method :=
  method "delete" 1 fun call => do
    let ref ← collectionOf call.this kind
    let there ← gets fun machine =>
      match (machine.heap.getD ref default).kind with
      | .collection _ table => table.contains call.first
      | _ => false
    changeTable ref (·.erase call.first)
    return .boolean there

def getMethod (kind : CollectionKind) : Method :=
  method "get" 1 fun call => do
    return ((← tableOf call.this kind).2.find? call.first).getD .undefined

def clearMethod (kind : CollectionKind) : Method :=
  method "clear" 0 fun call => do
    let ref ← collectionOf call.this kind
    changeTable ref Table.clear
    return .undefined

def sizeGetter (kind : CollectionKind) : Method :=
  method "get size" 0 fun call => do return .ofNat (← tableOf call.this kind).2.size

/-- Goes through the entries of a collection, also those that are added meanwhile. -/
def forEntries (ref : Ref) (part : Value → Value → Execution Unit) : Execution Unit :=
  repeating (0 : Nat) fun position => do
    let next ← gets fun machine =>
      match (machine.heap.getD ref default).kind with
      | .collection _ table => table.nextFrom? (table.entries.size + 1 - position) position
      | _ => none
    match next with
    | some (found, key, value) =>
      part key value
      return .inl (found + 1)
    | none => return .inr ()

def forEachMethod (kind : CollectionKind) : Method :=
  method "forEach" 1 fun call => do
    let ref ← collectionOf call.this kind
    expectFunction call.first
    forEntries ref fun key value => do
      discard <| Engine.call call.first call.second #[value, key, call.this]
    return .undefined

def courseMethod (kind : CollectionKind) (name : String) (part : Part) : Method :=
  method name 0 fun call => do
    let ref ← collectionOf call.this kind
    let parent := if kind = .map then Intrinsic.mapIteratorPrototype else .setIteratorPrototype
    return .object (← newObject (.iterator (.collection ref 0 part)) parent)

def mapEntries : Method := courseMethod .map "entries" .both

def setValues : Method := courseMethod .set "values" .values

def mapMethods : List Method := [
  insertMethod .map "set" true, getMethod .map, hasMethod .map, deleteMethod .map, clearMethod .map,
  forEachMethod .map, courseMethod .map "values" .values, courseMethod .map "keys" .keys]

def weakMapMethods : List Method :=
  [insertMethod .weakMap "set" true, getMethod .weakMap, hasMethod .weakMap, deleteMethod .weakMap]

def weakSetMethods : List Method :=
  [insertMethod .weakSet "add" false, hasMethod .weakSet, deleteMethod .weakSet]

/-! ### Sets beside each other -/

structure SetLike where
  object : Value
  size : Float
  has : Value
  keys : Value

def setLike (value : Value) : Execution SetLike := do
  let ref ← expectObject value
  let object := Value.object ref
  let size ← (← object.get (.ofString "size")).toFloat
  if size.isNaN then throwType "size is not a number"
  else
    let size ← (Value.number size).toInteger
    if size < 0 then throwNew .rangeError "invalid set size"
    let has ← object.get (.ofString "has")
    expectFunction has
    let keys ← object.get (.ofString "keys")
    expectFunction keys
    return { object, size, has, keys }

def SetLike.contains (other : SetLike) (value : Value) : Execution Bool := do
  return (← Engine.call other.has other.object #[value]).truthy

def SetLike.values (other : SetLike) : Execution (List Value) := do
  let iterator ← Engine.call other.keys other.object #[]
  discard <| expectObject iterator
  let iteration : Iteration := { iterator, next := ← iterator.get nextName }
  let found ← repeating ([] : List Value) fun done => do
    match ← iteration.step? with
    | none => return .inr done
    | some value => return .inl (value :: done)
  return found.reverse

def newSet (values : List Value) : Execution Value := do
  let table := values.foldl (fun table value => table.insert value value) Table.empty
  note (entrySize * table.size)
  return .object (← newObject (.collection .set table) .setPrototype)

def membersOf (value : Value) : Execution (List Value) := do
  let (_, table) ← tableOf value .set
  return table.entries.toList.filterMap fun entry => entry.map (·.1)

def setOperation (name : String) (apply : [Engine] → List Value → SetLike → Execution Value) : Method :=
  method name 1 fun call => do
    let members ← membersOf call.this
    apply members (← setLike call.first)

def setMethods : List Method := [
  insertMethod .set "add" false, hasMethod .set, deleteMethod .set, clearMethod .set,
  forEachMethod .set,
  setOperation "isDisjointFrom" fun members other => do
    return .boolean !(← members.anyM other.contains),
  setOperation "isSubsetOf" fun members other => do return .boolean (← members.allM other.contains),
  setOperation "isSupersetOf" fun members other => do
    let found := members.foldl (fun table value => table.insert value value) Table.empty
    return .boolean ((← other.values).all found.contains),
  setOperation "intersection" fun members other => do newSet (← members.filterM other.contains),
  setOperation "difference" fun members other => do
    newSet (← members.filterM fun value => do return !(← other.contains value)),
  setOperation "symmetricDifference" fun members other => do
    let others ← other.values
    let mine := members.foldl (fun table value => table.insert value value) Table.empty
    let theirs := others.foldl (fun table value => table.insert value value) Table.empty
    newSet (members.filter (!theirs.contains ·) ++ others.filter (!mine.contains ·)),
  setOperation "union" fun members other => do newSet (members ++ (← other.values)),
  courseMethod .set "entries" .both]

/-! ### Constructors -/

def collectionConstructor (name : String) (kind : CollectionKind) (usual : Intrinsic) : Method :=
  constructor name 0 fun call => do
    if call.newTarget.isUndefined then throwType "constructor requires 'new'"
    else
      let ref ← newFor call.newTarget usual (.collection kind Table.empty)
      let value := Value.object ref
      if call.first.isNullish then return value
      else
        let pairs := kind = .map || kind = .weakMap
        let adder ← value.get (.ofString (if pairs then "set" else "add"))
        expectFunction adder
        let iteration ← iterate call.first false
        iteration.fold () fun _ item => do
          if pairs then
            match item with
            | .object _ =>
              let key ← item.get (.index 0)
              discard <| Engine.call adder value #[key, ← item.get (.index 1)]
            | _ => throwType "not an object"
          else discard <| Engine.call adder value #[item]
        return value

def mapStatics : List Method := [
  method "groupBy" 2 fun call => do
    expectFunction call.second
    let iteration ← iterate call.first false
    let (table, _) ← iteration.fold (Table.empty, (0 : Nat)) fun (table, index) value => do
      let key ← Engine.call call.second .undefined #[value, .ofNat index]
      let group ← match table.find? key with
        | some group => pure group
        | none => newArrayOf #[]
      appendTo group value
      return (table.insert key group, index + 1)
    return .object (← newObject (.collection .map table) .mapPrototype)]

/-! ### References that do not keep their target -/

def makeWeakRef : Method :=
  constructor "WeakRef" 1 fun call => do
    if call.newTarget.isUndefined then throwType "constructor requires 'new'"
    else if ← isWeakKey call.first then
      return .object (← newFor call.newTarget .weakRefPrototype (.weakRef call.first))
    else throwType "invalid target"

def weakRefMethods : List Method := [
  method "deref" 0 fun call => do
    match call.this with
    | .object ref =>
      match ← kindOf ref with
      | .weakRef target => return target
      | _ => throwType "not a WeakRef"
    | _ => throwType "not a WeakRef"]

/-- Clean-up functions never run, because an evaluation ends before that. -/
def makeFinalizationRegistry : Method :=
  constructor "FinalizationRegistry" 1 fun call => do
    if call.newTarget.isUndefined then throwType "constructor requires 'new'"
    else
      expectFunction call.first
      return .object (← newFor call.newTarget .objectPrototype .ordinary)

def finalizationRegistryMethods : List Method := [
  method "register" 2 fun call => do
    if ← isWeakKey call.first then return .undefined else throwType "invalid target",
  method "unregister" 1 fun _ => return .boolean false]

end ScriptSandbox.Script.Library
