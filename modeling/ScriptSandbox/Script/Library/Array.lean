import ScriptSandbox.Script.Library.Object

/-!
Arrays, and everything that has a length and indices.
-/

namespace ScriptSandbox.Script.Library

open Execution

variable [Engine]

def expectFunction (value : Value) : Execution Unit := do
  if !(← isCallable value) then throwType "not a function"

/-- A new array where one is derived from another: its constructor may name another kind. -/
def derivedArray (source : Value) (length : Nat) : Execution Ref := do
  let plain : Execution Ref := do
    if 4294967295 < length then lengthError
    else newObject (.array #[] length false) .arrayPrototype
  if !(← source.isArray) then plain
  else
    let maker ← source.get constructorKey
    let maker ← match maker with
      | .object _ => do
        match ← maker.get WellKnown.species.key with
        | .null => pure .undefined
        | found => pure found
      | other => pure other
    if maker.isUndefined || Value.same maker Intrinsic.arrayConstructor.value then plain
    else
      if !(← isConstructor maker) then throwType "not a constructor"
      match ← Engine.construct maker #[.ofNat length] maker with
      | .object ref => return ref
      | _ => throwType "not an object"

def forIndices (length : Nat) (part : Nat → Execution Unit) : Execution Unit :=
  repeating (0 : Nat) fun index => do
    if index < length then
      part index
      return .inl (index + 1)
    else return .inr ()

def findIndex? (length : Nat) (part : Nat → Execution Bool) : Execution (Option Nat) :=
  repeating (0 : Nat) fun index => do
    if index < length then
      if ← part index then return .inr (some index) else return .inl (index + 1)
    else return .inr none

def findLastIndex? (length : Nat) (part : Nat → Execution Bool) : Execution (Option Nat) :=
  repeating length fun index => do
    if index = 0 then return .inr none
    else if ← part (index - 1) then return .inr (some (index - 1))
    else return .inl (index - 1)

structure Walk where
  object : Value
  ref : Ref
  length : Nat

def walkOf (this : Value) : Execution Walk := do
  let ref ← this.toObject
  let object := Value.object ref
  return { object, ref, length := ← lengthOf object }

def Walk.at (walk : Walk) (index : Nat) : Execution Value := walk.object.get (.index index)

def Walk.has (walk : Walk) (index : Nat) : Execution Bool := walk.ref.has (.index index)

def Walk.at? (walk : Walk) (index : Nat) : Execution (Option Value) := do
  match (← gets fun machine => ownProperty? machine.heap (machine.heap.getD walk.ref default) (.index index)) with
  | some { content := .value value, .. } =>
    if ← isProxy walk.ref then (if ← walk.has index then return some (← walk.at index) else return none)
    else return some value
  | _ => if ← walk.has index then return some (← walk.at index) else return none

def Walk.call (walk : Walk) (function this : Value) (index : Nat) (value : Value) : Execution Value :=
  Engine.call function this #[value, .ofNat index, walk.object]

def walkWith (call : Call) : Execution Walk := do
  let walk ← walkOf call.this
  expectFunction call.first
  return walk

/-! ### Joining -/

def joinElements (walk : Walk) (separator : Units) : Execution Units := do
  repeating ((0 : Nat), (#[] : Units)) fun (index, done) => do
    if index < walk.length then
      let text ← match ← walk.at index with
        | .undefined => pure #[]
        | .null => pure #[]
        | value => value.toUnits
      let done := if index = 0 then done else done ++ separator
      if longestText < done.size + text.size then throwNew .internalError "string too long"
      if 1024 ≤ text.size + separator.size then charge (text.size + separator.size)
      return .inl (index + 1, done ++ text)
    else return .inr done

def joinMethod : Method :=
  method "join" 1 fun call => do
    let walk ← walkOf call.this
    let separator ← if call.first.isUndefined then pure (Units.ofString ",") else call.first.toUnits
    newText (← joinElements walk separator)

def arrayToString (call : Call) : Execution Value := do
  let ref ← call.this.toObject
  let join ← (Value.object ref).get (.ofString "join")
  if Value.same join Intrinsic.arrayJoin.value then
    newText (← joinElements (← walkOf (.object ref)) (Units.ofString ","))
  else if ← isCallable join then Engine.call join (.object ref) #[]
  else return .text (← objectText (.object ref))

def arrayTextMethod : Method := method "toString" 0 fun call => arrayToString call

/-! ### Changing -/

def setLength (ref : Ref) (length : Nat) : Execution Unit := ref.put lengthKey (.ofNat length)

/-- Whether an object is an array whose elements are all there, and that may change freely. -/
def isDense (object : Object) : Bool :=
  match object with
  | { kind := .array elements size false, extensible := true, properties, .. } =>
    elements.size = size && properties.entries.isEmpty
  | _ => false

def modifyElements (ref : Ref) (change : Array Value → Array Value) : Execution Unit :=
  modifyObject ref fun object =>
    match object with
    | { kind := .array elements _ fixedLength, parent, extensible, properties } =>
      let elements := change elements
      { kind := .array elements elements.size fixedLength, parent, extensible, properties }
    | other => other

def pushAll (ref : Ref) (length : Nat) (values : List Value) : Execution Value := do
  let count := values.length
  if ← gets fun machine => isDense (machine.heap.getD ref default) then
    for value in values do
      appendTo (.object ref) value
    return .ofNat (length + count)
  else slow count
where
  slow (count : Nat) : Execution Value := do
    if Value.longest < length + count then throwType "invalid array length"
    charge (16 * count)
    for (value, index) in values.zipIdx do
      ref.put (.index (length + index)) value
    setLength ref (length + count)
    return .ofNat (length + count)

/-- Moves elements by some places, in the order that overwrites none of them. -/
def moveElements (walk : Walk) (source target count : Nat) : Execution Unit := do
  let move (offset : Nat) : Execution Unit := do
    match ← walk.at? (source + offset) with
    | some value => walk.ref.put (.index (target + offset)) value
    | none => if !(← walk.ref.delete (.index (target + offset))) then throwType "could not delete property"
  if source < target then forIndices count fun n => move (count - 1 - n) else forIndices count move

def deleteElement (ref : Ref) (index : Nat) : Execution Unit := do
  if !(← ref.delete (.index index)) then throwType "could not delete property"

def pop (call : Call) : Execution Value := do
  let walk ← walkOf call.this
  if walk.length = 0 then
    setLength walk.ref 0
    return .undefined
  else if ← gets fun machine => isDense (machine.heap.getD walk.ref default) then
    let value ← walk.at (walk.length - 1)
    modifyElements walk.ref Array.pop
    return value
  else
    let value ← walk.at (walk.length - 1)
    deleteElement walk.ref (walk.length - 1)
    setLength walk.ref (walk.length - 1)
    return value

def shift (call : Call) : Execution Value := do
  let walk ← walkOf call.this
  if walk.length = 0 then
    setLength walk.ref 0
    return .undefined
  else if ← gets fun machine => isDense (machine.heap.getD walk.ref default) then
    let value ← walk.at 0
    modifyElements walk.ref fun elements => elements.extract 1 elements.size
    return value
  else
    let value ← walk.at 0
    moveElements walk 1 0 (walk.length - 1)
    deleteElement walk.ref (walk.length - 1)
    setLength walk.ref (walk.length - 1)
    return value

def unshift (call : Call) : Execution Value := do
  let walk ← walkOf call.this
  let count := call.count
  if 0 < count then
    moveElements walk 0 count walk.length
    for (value, index) in call.arguments.toList.zipIdx do
      walk.ref.put (.index index) value
  setLength walk.ref (walk.length + count)
  return .ofNat (walk.length + count)

def splice (call : Call) : Execution Value := do
  let walk ← walkOf call.this
  let start ← call.first.toPosition walk.length
  let removed ← if call.count = 0 then pure 0
    else if call.count = 1 then pure (walk.length - start)
    else do
      let x ← call.second.toInteger
      pure (if x ≤ 0 then 0 else if Float.ofNat (walk.length - start) ≤ x then walk.length - start
        else (Number.truncate x).toNat)
  let inserted := call.arguments.toList.drop 2
  let result ← derivedArray call.this removed
  forIndices removed fun index => do
    match ← walk.at? (start + index) with
    | some value => result.create (.index index) value
    | none => pure ()
  setLength result removed
  let count := inserted.length
  if count ≠ removed then
    moveElements walk (start + removed) (start + count) (walk.length - start - removed)
    if count < removed then
      forIndices (removed - count) fun n => deleteElement walk.ref (walk.length - 1 - n)
  for (value, index) in inserted.zipIdx do
    walk.ref.put (.index (start + index)) value
  setLength walk.ref (walk.length + count - removed)
  return .object result

def reverse (call : Call) : Execution Value := do
  let walk ← walkOf call.this
  forIndices (walk.length / 2) fun low => do
    let high := walk.length - 1 - low
    let a ← walk.at? low
    let b ← walk.at? high
    match b with
    | some value => walk.ref.put (.index low) value
    | none => deleteElement walk.ref low
    match a with
    | some value => walk.ref.put (.index high) value
    | none => deleteElement walk.ref high
  return walk.object

def fill (call : Call) : Execution Value := do
  let walk ← walkOf call.this
  let start ← call.second.toPosition walk.length
  let finish ← if (call.argument 2).isUndefined then pure walk.length
    else (call.argument 2).toPosition walk.length
  forIndices (finish - start) fun n => do
    charge 16
    walk.ref.put (.index (start + n)) call.first
  return walk.object

def copyWithin (call : Call) : Execution Value := do
  let walk ← walkOf call.this
  let target ← call.first.toPosition walk.length
  let start ← call.second.toPosition walk.length
  let finish ← if (call.argument 2).isUndefined then pure walk.length
    else (call.argument 2).toPosition walk.length
  moveElements walk start target (min (finish - start) (walk.length - target))
  return walk.object

/-! ### Sorting -/

/-- Merges two ordered lists; of equal values the left one comes first. -/
def mergeBy (less : Value → Value → Execution Bool) (a b : List Value) : Execution (List Value) :=
  repeating (a, b, ([] : List Value)) fun (a, b, done) => do
    match a, b with
    | [], rest => return .inr (done.reverse ++ rest)
    | rest, [] => return .inr (done.reverse ++ rest)
    | x :: restA, y :: restB =>
      if ← less y x then return .inl (x :: restA, restB, y :: done)
      else return .inl (restA, y :: restB, x :: done)

/-- Sorts values; the number bounds how often the list is halved. -/
def sortBy (less : Value → Value → Execution Bool) : Nat → List Value → Execution (List Value)
  | 0, values => return values
  | depth + 1, values => do
    match values with
    | [] => return []
    | [value] => return [value]
    | values =>
      let half := values.length / 2
      let a ← sortBy less depth (values.take half)
      let b ← sortBy less depth (values.drop half)
      mergeBy less a b

/-- Whether a value comes before another one: by a function, or else by their texts. -/
def sortsBefore (function : Value) (a b : Value) : Execution Bool := do
  match function with
  | .undefined => return (← a.toUnits).precedes (← b.toUnits)
  | function =>
    let order ← (← Engine.call function .undefined #[a, b]).toFloat
    return order < 0

/-- Values in order, with those that are `undefined` at the end. -/
def sortValues (values : List Value) (function : Value) : Execution (List Value) := do
  let defined := values.filter (!·.isUndefined)
  let missing := values.filter Value.isUndefined
  return (← sortBy (sortsBefore function) 64 defined) ++ missing

def checkOrder (function : Value) : Execution Unit := do
  if !function.isUndefined then expectFunction function

def presentElements (walk : Walk) : Execution (List Value) := do
  let found ← repeating ((0 : Nat), ([] : List Value)) fun (index, found) => do
    if index < walk.length then
      match ← walk.at? index with
      | some value => return .inl (index + 1, value :: found)
      | none => return .inl (index + 1, found)
    else return .inr found
  return found.reverse

def sort (call : Call) : Execution Value := do
  checkOrder call.first
  let walk ← walkOf call.this
  let found ← presentElements walk
  let sorted ← sortValues found call.first
  for (value, index) in sorted.zipIdx do
    walk.ref.put (.index index) value
  forIndices (walk.length - sorted.length) fun n => do
    if ← walk.has (sorted.length + n) then deleteElement walk.ref (sorted.length + n)
  return walk.object

/-- All elements, absent ones as `undefined`. -/
def allElements (walk : Walk) : Execution (Array Value) := itemsOf walk.object

/-! ### Flattening and joining arrays -/

def isSpreadable (value : Value) : Execution Bool := do
  match value with
  | .object _ =>
    match ← value.get WellKnown.isConcatSpreadable.key with
    | .undefined => value.isArray
    | found => return found.truthy
  | _ => return false

def concat (call : Call) : Execution Value := do
  let this := Value.object (← call.this.toObject)
  let result ← derivedArray this 0
  let length ← repeating (this :: call.arguments.toList, (0 : Nat)) fun (rest, length) => do
    match rest with
    | [] => return .inr length
    | value :: rest =>
      if ← isSpreadable value then
        let walk ← walkOf value
        charge (16 * walk.length)
        forIndices walk.length fun index => do
          match ← walk.at? index with
          | some value => result.create (.index (length + index)) value
          | none => pure ()
        return .inl (rest, length + walk.length)
      else
        result.create (.index length) value
        return .inl (rest, length + 1)
  setLength result length
  return .object result

def deepestArray : Nat := 1000

def flattenInto (result : Ref) (endless : Bool) : Nat → Walk → Nat → Execution Nat
  | 0, _, next => return next
  | depth + 1, walk, next =>
    repeating ((0 : Nat), next) fun (index, next) => do
      if index < walk.length then
        match ← walk.at? index with
        | none => return .inl (index + 1, next)
        | some value =>
          if depth ≠ 0 && (← value.isArray) then
            return .inl (index + 1, ← flattenInto result endless depth (← walkOf value) next)
          else if endless && (← value.isArray) then stackOverflow
          else
            result.create (.index next) value
            return .inl (index + 1, next + 1)
      else return .inr next

/-! ### Copies -/

def sliceOf (walk : Walk) (start finish : Nat) (result : Ref) : Execution Unit := do
  charge (16 * (finish - start))
  forIndices (finish - start) fun n => do
    match ← walk.at? (start + n) with
    | some value => result.create (.index n) value
    | none => pure ()
  setLength result (finish - start)

def slice (call : Call) : Execution Value := do
  let walk ← walkOf call.this
  let start ← call.first.toPosition walk.length
  let finish ← if call.second.isUndefined then pure walk.length else call.second.toPosition walk.length
  let result ← derivedArray call.this (finish - start)
  sliceOf walk start finish result
  return .object result

def map (call : Call) : Execution Value := do
  let walk ← walkWith call
  let result ← derivedArray call.this walk.length
  forIndices walk.length fun index => do
    match ← walk.at? index with
    | some value => result.create (.index index) (← walk.call call.first call.second index value)
    | none => pure ()
  return .object result

def filter (call : Call) : Execution Value := do
  let walk ← walkWith call
  let result ← derivedArray call.this 0
  discard <| repeating ((0 : Nat), (0 : Nat)) fun (index, next) => do
    if index < walk.length then
      match ← walk.at? index with
      | some value =>
        if (← walk.call call.first call.second index value).truthy then
          result.create (.index next) value
          return .inl (index + 1, next + 1)
        else return .inl (index + 1, next)
      | none => return .inl (index + 1, next)
    else return .inr ()
  return .object result

def reduce (call : Call) (forward : Bool) : Execution Value := do
  let walk ← walkWith call
  let place (n : Nat) : Nat := if forward then n else walk.length - 1 - n
  let start ← if 1 < call.count then pure (some (call.second, 0))
    else do
      match ← findIndex? walk.length fun n => walk.has (place n) with
      | some n => pure (some (← walk.at (place n), n + 1))
      | none => pure none
  match start with
  | none => throwType "empty array"
  | some (value, first) =>
    repeating (first, value) fun (n, value) => do
      if n < walk.length then
        match ← walk.at? (place n) with
        | some element =>
          return .inl (n + 1,
            ← Engine.call call.first .undefined #[value, element, .ofNat (place n), walk.object])
        | none => return .inl (n + 1, value)
      else return .inr value

/-- The first position of a search: counted from the end if it is negative. -/
def searchStart (call : Call) (length : Nat) : Execution Nat := call.second.toPosition length

def indexOrMinusOne : Option Nat → Value
  | some index => .ofNat index
  | none => .integer (-1)

def makeIterator (source : Ref) (part : Part) : Execution Value := do
  return .object (← newObject (.iterator (.array source 0 part)) .arrayIteratorPrototype)

def valuesMethod : Method :=
  method "values" 0 fun call => do makeIterator (← call.this.toObject) .values

def arrayMethods : List Method := [
  method "at" 1 fun call => do
    let walk ← walkOf call.this
    let x ← call.first.toInteger
    let x := if x < 0 then x + Float.ofNat walk.length else x
    if x < 0 || Float.ofNat walk.length ≤ x then return .undefined
    else walk.at (Number.truncate x).toNat,
  method "with" 2 fun call => do
    let walk ← walkOf call.this
    let x ← call.first.toInteger
    let x := if x < 0 then x + Float.ofNat walk.length else x
    if x < 0 || Float.ofNat walk.length ≤ x then throwNew .rangeError "invalid array index"
    else newArrayOf ((← allElements walk).setIfInBounds (Number.truncate x).toNat call.second),
  method "concat" 1 concat,
  method "every" 1 fun call => do
    let walk ← walkWith call
    let found ← findIndex? walk.length fun index => do
      match ← walk.at? index with
      | some value => return !(← walk.call call.first call.second index value).truthy
      | none => return false
    return .boolean found.isNone,
  method "some" 1 fun call => do
    let walk ← walkWith call
    let found ← findIndex? walk.length fun index => do
      match ← walk.at? index with
      | some value => return (← walk.call call.first call.second index value).truthy
      | none => return false
    return .boolean found.isSome,
  method "forEach" 1 fun call => do
    let walk ← walkWith call
    forIndices walk.length fun index => do
      match ← walk.at? index with
      | some value => discard <| walk.call call.first call.second index value
      | none => pure ()
    return .undefined,
  method "map" 1 map,
  method "filter" 1 filter,
  method "reduce" 1 fun call => reduce call true,
  method "reduceRight" 1 fun call => reduce call false,
  method "fill" 1 fill,
  method "find" 1 fun call => do
    let walk ← walkWith call
    match ← findIndex? walk.length fun index => do
        return (← walk.call call.first call.second index (← walk.at index)).truthy with
    | some index => walk.at index
    | none => return .undefined,
  method "findIndex" 1 fun call => do
    let walk ← walkWith call
    return indexOrMinusOne (← findIndex? walk.length fun index => do
      return (← walk.call call.first call.second index (← walk.at index)).truthy),
  method "findLast" 1 fun call => do
    let walk ← walkWith call
    match ← findLastIndex? walk.length fun index => do
        return (← walk.call call.first call.second index (← walk.at index)).truthy with
    | some index => walk.at index
    | none => return .undefined,
  method "findLastIndex" 1 fun call => do
    let walk ← walkWith call
    return indexOrMinusOne (← findLastIndex? walk.length fun index => do
      return (← walk.call call.first call.second index (← walk.at index)).truthy),
  method "indexOf" 1 fun call => do
    let walk ← walkOf call.this
    let start ← searchStart call walk.length
    return indexOrMinusOne (← findIndex? walk.length fun index => do
      if index < start then return false
      else match ← walk.at? index with
        | some value => return Value.same value call.first
        | none => return false),
  method "lastIndexOf" 1 fun call => do
    let walk ← walkOf call.this
    let finish ← if 1 < call.count then do
        let x ← call.second.toInteger
        pure (if x < 0 then (x + Float.ofNat walk.length + 1) else x + 1)
      else pure (Float.ofNat walk.length)
    return indexOrMinusOne (← findLastIndex? walk.length fun index => do
      if finish ≤ Float.ofNat index then return false
      else match ← walk.at? index with
        | some value => return Value.same value call.first
        | none => return false),
  method "includes" 1 fun call => do
    let walk ← walkOf call.this
    let start ← searchStart call walk.length
    return .boolean (← findIndex? walk.length fun index => do
      if index < start then return false
      else return Value.sameOrNaN (← walk.at index) call.first).isSome,
  arrayTextMethod,
  method "toLocaleString" 0 fun call => do
    let walk ← walkOf call.this
    let texts ← repeating ((0 : Nat), ([] : List Units)) fun (index, done) => do
      if index < walk.length then
        match ← walk.at index with
        | .undefined => return .inl (index + 1, #[] :: done)
        | .null => return .inl (index + 1, #[] :: done)
        | value =>
          let function ← value.get (.ofString "toLocaleString")
          return .inl (index + 1, (← (← Engine.call function value #[]).toUnits) :: done)
      else return .inr done
    newText (Units.join (Units.ofString ",") texts.reverse),
  method "pop" 0 pop,
  method "push" 1 fun call => do
    let walk ← walkOf call.this
    pushAll walk.ref walk.length call.arguments.toList,
  method "shift" 0 shift,
  method "unshift" 1 unshift,
  method "reverse" 0 reverse,
  method "toReversed" 0 fun call => do newArrayOf (← allElements (← walkOf call.this)).reverse,
  method "sort" 1 sort,
  method "toSorted" 1 fun call => do
    checkOrder call.first
    let elements ← allElements (← walkOf call.this)
    newArrayOf (← sortValues elements.toList call.first).toArray,
  method "slice" 2 slice,
  method "splice" 2 splice,
  method "toSpliced" 2 fun call => do
    let walk ← walkOf call.this
    let start ← call.first.toPosition walk.length
    let removed ← if call.count = 0 then pure 0
      else if call.count = 1 then pure (walk.length - start)
      else do
        let x ← call.second.toInteger
        pure (if x ≤ 0 then 0 else if Float.ofNat (walk.length - start) ≤ x then walk.length - start
          else (Number.truncate x).toNat)
    let elements ← allElements walk
    newArrayOf (elements.extract 0 start ++ call.arguments.extract 2 call.count ++
      elements.extract (start + removed) elements.size),
  method "copyWithin" 2 copyWithin,
  method "flatMap" 1 fun call => do
    let walk ← walkWith call
    let result ← derivedArray call.this 0
    discard <| repeating ((0 : Nat), (0 : Nat)) fun (index, next) => do
      if index < walk.length then
        match ← walk.at? index with
        | none => return .inl (index + 1, next)
        | some value =>
          let found ← walk.call call.first call.second index value
          if ← found.isArray then
            return .inl (index + 1, ← flattenInto result false 1 (← walkOf found) next)
          else
            result.create (.index next) found
            return .inl (index + 1, next + 1)
      else return .inr ()
    return .object result,
  method "flat" 0 fun call => do
    let walk ← walkOf call.this
    let depth ← if call.first.isUndefined then pure 1 else do
      let x ← call.first.toInteger
      pure (if x ≤ 0 then 0 else if Float.ofNat deepestArray ≤ x then deepestArray else (Number.truncate x).toNat)
    let result ← derivedArray call.this 0
    discard <| flattenInto result (depth = deepestArray) (depth + 1) walk 0
    return .object result,
  method "entries" 0 fun call => do makeIterator (← call.this.toObject) .both,
  method "keys" 0 fun call => do makeIterator (← call.this.toObject) .keys]

def makeArray : Method :=
  constructor "Array" 1 fun call => do
    let parent ← parentFor call.newTarget .arrayPrototype
    let elements (values : Array Value) (length : Nat) : Execution Value := do
      charge (16 * values.size)
      return .object (← allocate (Object.create (.array values length false) (some parent)))
    match call.arguments.toList with
    | [.integer n] => if n < 0 then lengthError else elements #[] n.toNat
    | [.number x] => elements #[] (← arrayLength (.number x))
    | _ => elements call.arguments call.count

/-- An object for the results of a class-level method: made by `this`, if that is a constructor. -/
def resultFor (this : Value) (arguments : Array Value) : Execution Ref := do
  if (← isConstructor this) && !Value.same this Intrinsic.arrayConstructor.value then
    match ← Engine.construct this arguments this with
    | .object ref => return ref
    | _ => throwType "not an object"
  else newObject (.array #[] 0 false) .arrayPrototype

def arrayStatics : List Method := [
  method "isArray" 1 fun call => return .boolean (← call.first.isArray),
  method "from" 1 fun call => do
    if !call.second.isUndefined then expectFunction call.second
    let convert (value : Value) (index : Nat) : Execution Value := do
      if call.second.isUndefined then return value
      else Engine.call call.second (call.argument 2) #[value, .ofNat index]
    let method ← if call.first.isNullish then throwType "cannot convert to object"
      else call.first.getMethod WellKnown.iterator.key
    match method with
    | some _ =>
      let result ← resultFor call.this #[]
      let iteration ← iterate call.first false
      let length ← iteration.fold (0 : Nat) fun index value => do
        charge 16
        result.create (.index index) (← convert value index)
        return index + 1
      setLength result length
      return .object result
    | none =>
      let walk ← walkOf call.first
      let result ← resultFor call.this #[.ofNat walk.length]
      forIndices walk.length fun index => do
        charge 16
        result.create (.index index) (← convert (← walk.at index) index)
      setLength result walk.length
      return .object result,
  method "of" 0 fun call => do
    let result ← resultFor call.this #[.ofNat call.count]
    for (value, index) in call.arguments.toList.zipIdx do
      result.create (.index index) value
    setLength result call.count
    return .object result]

def nextOf (call : Call) : Execution Value := do
  match call.this with
  | .object ref =>
    match ← kindOf ref with
    | .iterator course =>
      let ended : Execution Value := do
        setKind ref (.iterator .ended)
        iterationResult .undefined true
      match course with
      | .array source next part =>
        let length ← match ← kindOf source with
          | .view (some _) _ _ length => pure length
          | _ => lengthOf (.object source)
        if next < length then
          setKind ref (.iterator (.array source (next + 1) part))
          match part with
          | .keys => iterationResult (.ofNat next) false
          | .values => iterationResult (← (Value.object source).get (.index next)) false
          | .both =>
            let value ← (Value.object source).get (.index next)
            iterationResult (← pairOf (.ofNat next) value) false
        else ended
      | .collection source next part =>
        match ← kindOf source with
        | .collection _ table =>
          match table.nextFrom? (table.entries.size + 1 - next) next with
          | some (position, key, value) =>
            setKind ref (.iterator (.collection source (position + 1) part))
            match part with
            | .keys => iterationResult key false
            | .values => iterationResult value false
            | .both => iterationResult (← pairOf key value) false
          | none => ended
        | _ => ended
      | .text source next =>
        match source.codeAt? next with
        | some (_, count) =>
          setKind ref (.iterator (.text source (next + count)))
          iterationResult (.text (source.extract next (next + count))) false
        | none => ended
      | _ => ended
    | _ => throwType "not an iterator"
  | _ => throwType "not an iterator"

def iteratorMethods : List Method := [method "next" 0 nextOf]

end ScriptSandbox.Script.Library
