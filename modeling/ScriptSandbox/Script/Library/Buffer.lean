import ScriptSandbox.Script.Library.Array
import ScriptSandbox.Script.Library.Collection

/-!
Bytes: buffers, arrays of numbers over them, and views that read numbers of any kind.
-/

namespace ScriptSandbox.Script.Library

open Execution

def elementPrototype : ElementType → Intrinsic
  | .int8 => .int8Prototype
  | .uint8 => .uint8Prototype
  | .clamped => .clampedPrototype
  | .int16 => .int16Prototype
  | .uint16 => .uint16Prototype
  | .int32 => .int32Prototype
  | .uint32 => .uint32Prototype
  | .bigInt64 => .bigInt64Prototype
  | .bigUint64 => .bigUint64Prototype
  | .float32 => .float32Prototype
  | .float64 => .float64Prototype

def bytesOf (value : Value) : Execution (Ref × ByteArray) := do
  match value with
  | .object ref =>
    match ← kindOf ref with
    | .buffer bytes => return (ref, bytes)
    | _ => throwType "not an ArrayBuffer"
  | _ => throwType "not an ArrayBuffer"

structure View where
  ref : Ref
  element : Option ElementType
  buffer : Ref
  offset : Nat
  length : Nat

def viewOf (value : Value) (typed : Bool) : Execution View := do
  let wrong : Execution View := throwType (if typed then "not a TypedArray" else "not a DataView")
  match value with
  | .object ref =>
    match ← kindOf ref with
    | .view element buffer offset length =>
      if element.isSome == typed then return { ref, element, buffer, offset, length } else wrong
    | _ => wrong
  | _ => wrong

def View.elementSize (view : View) : Nat := (view.element.map ElementType.size).getD 1

def longestBuffer : Nat := 2147483647

def newBytes (length : Nat) : Execution ByteArray := do
  if longestBuffer < length then throwNew .rangeError "invalid array buffer length"
  else
    charge length
    return ByteArray.mk (Array.replicate length 0)

variable [Engine]

def requireNew (call : Call) : Execution Unit := do
  if call.newTarget.isUndefined then throwType "constructor requires 'new'"

def makeBuffer : Method :=
  constructor "ArrayBuffer" 1 fun call => do
    requireNew call
    let length ← call.first.toIndex
    let parent ← parentFor call.newTarget .bufferPrototype
    return .object (← allocate (Object.create (.buffer (← newBytes length)) (some parent)))

def bufferStatics : List Method := [
  method "isView" 1 fun call => do
    match call.first with
    | .object ref =>
      match ← kindOf ref with
      | .view .. => return .boolean true
      | _ => return .boolean false
    | _ => return .boolean false]

def byteLengthGetter : Method :=
  method "get byteLength" 0 fun call => do return .ofNat (← bytesOf call.this).2.size

def bufferMethods : List Method := [
  method "slice" 2 fun call => do
    let (_, bytes) ← bytesOf call.this
    let first ← call.first.toPosition bytes.size
    let last ← if call.second.isUndefined then pure bytes.size else call.second.toPosition bytes.size
    charge (last - first)
    return .object (← newObject (.buffer (bytes.extract first last)) .bufferPrototype)]

/-! ### Arrays of numbers -/

def newView (element : ElementType) (length : Nat) (parent : Ref) : Execution View := do
  let bytes ← newBytes (length * element.size)
  let buffer ← newObject (.buffer bytes) .bufferPrototype
  let ref ← allocate (Object.create (.view (some element) buffer 0 length) (some parent))
  return { ref, element := some element, buffer, offset := 0, length }

def View.value (view : View) : Value := .object view.ref

def View.at (view : View) (index : Nat) : Execution Value := view.value.get (.index index)

def View.set (view : View) (index : Nat) (value : Value) : Execution Unit :=
  match view.element with
  | some element => writeElement element view.buffer view.offset view.length index value
  | none => pure ()

def View.items (view : View) : Execution (List Value) := (List.range view.length).mapM view.at

def View.like (view : View) (values : List Value) : Execution Value := do
  let element := view.element.getD .uint8
  let made ← newView element values.length (elementPrototype element).ref
  for (value, index) in values.zipIdx do
    made.set index value
  return made.value

def makeView (element : ElementType) : Method :=
  constructor element.name 3 fun call => do
    requireNew call
    let parent ← parentFor call.newTarget (elementPrototype element)
    let fill (values : List Value) : Execution Value := do
      let view ← newView element values.length parent
      for (value, index) in values.zipIdx do
        view.set index value
      return view.value
    match call.first with
    | .object ref =>
      match ← kindOf ref with
      | .buffer bytes =>
        let offset ← call.second.toIndex
        if offset % element.size != 0 then throwNew .rangeError "invalid offset"
        else
          let length ← if (call.argument 2).isUndefined then do
              if bytes.size % element.size != 0 || bytes.size < offset then
                throwNew .rangeError "invalid length"
              else pure ((bytes.size - offset) / element.size)
            else do
              let length ← (call.argument 2).toIndex
              if bytes.size < offset + length * element.size then throwNew .rangeError "invalid length"
              else pure length
          return .object (← allocate (Object.create (.view (some element) ref offset length) (some parent)))
      | .view (some _) .. =>
        let source ← viewOf call.first true
        fill (← source.items)
      | _ =>
        let values ← match ← call.first.getMethod WellKnown.iterator.key with
          | some _ => valuesOf call.first
          | none => itemsOf call.first
        fill values.toList
    | first =>
      let length ← first.toIndex
      return (← newView element length parent).value

def viewStatics : List Method := [
  method "from" 1 fun call => do
    if !(← isConstructor call.this) then throwType "not a constructor"
    else
      if !call.second.isUndefined then expectFunction call.second
      let source := Value.object (← call.first.toObject)
      let values ← match ← source.getMethod WellKnown.iterator.key with
        | some _ => valuesOf source
        | none => itemsOf source
      let made ← Engine.construct call.this #[.ofNat values.size] call.this
      for (value, index) in values.toList.zipIdx do
        let value ← if call.second.isUndefined then pure value
          else Engine.call call.second (call.argument 2) #[value, .ofNat index]
        made.put (.index index) value true
      return made,
  method "of" 0 fun call => do
    if !(← isConstructor call.this) then throwType "not a constructor"
    else
      let made ← Engine.construct call.this #[.ofNat call.count] call.this
      for (value, index) in call.arguments.toList.zipIdx do
        made.put (.index index) value true
      return made]

def viewWalk (name : String)
    (run : [Engine] → View → (Nat → Value → Execution Value) → Execution Value) : Method :=
  method name 1 fun call => do
    let view ← viewOf call.this true
    expectFunction call.first
    run view fun index value => Engine.call call.first call.second #[value, .ofNat index, call.this]

def viewGetters : List (String × Method) := [
  ("length", method "get length" 0 fun call => do return .ofNat (← viewOf call.this true).length),
  ("buffer", method "get buffer" 0 fun call => do return .object (← viewOf call.this true).buffer),
  ("byteLength", method "get byteLength" 0 fun call => do
    let view ← viewOf call.this true
    return .ofNat (view.length * view.elementSize)),
  ("byteOffset", method "get byteOffset" 0 fun call => do return .ofNat (← viewOf call.this true).offset)]

def viewTag : Method :=
  method "get [Symbol.toStringTag]" 0 fun call => do
    match call.this with
    | .object ref =>
      match ← kindOf ref with
      | .view (some element) .. => return .ofString element.name
      | _ => return .undefined
    | _ => return .undefined

def viewValues : Method :=
  method "values" 0 fun call => do makeIterator (← viewOf call.this true).ref .values

def viewMethods : List Method := [
  method "at" 1 fun call => do
    let view ← viewOf call.this true
    let x ← call.first.toInteger
    let x := if x < 0 then x + Float.ofNat view.length else x
    if 0 ≤ x && x < Float.ofNat view.length then view.at (Number.truncate x).toNat else return .undefined,
  method "set" 1 fun call => do
    let view ← viewOf call.this true
    let offset ← call.second.toInteger
    if offset < 0 then throwNew .rangeError "invalid array index"
    else
      let source := Value.object (← call.first.toObject)
      let values ← itemsOf source
      if Float.ofNat view.length < offset + Float.ofNat values.size then
        throwNew .rangeError "invalid array length"
      else
        for (value, index) in values.toList.zipIdx do
          view.set ((Number.truncate offset).toNat + index) value
        return .undefined,
  method "entries" 0 fun call => do makeIterator (← viewOf call.this true).ref .both,
  method "keys" 0 fun call => do makeIterator (← viewOf call.this true).ref .keys,
  method "subarray" 2 fun call => do
    let view ← viewOf call.this true
    let first ← call.first.toPosition view.length
    let last ← if call.second.isUndefined then pure view.length else call.second.toPosition view.length
    let parent := elementPrototype (view.element.getD .uint8)
    return .object (← newObject (.view view.element view.buffer (view.offset + first * view.elementSize)
      (last - first)) parent),
  method "slice" 2 fun call => do
    let view ← viewOf call.this true
    let first ← call.first.toPosition view.length
    let last ← if call.second.isUndefined then pure view.length else call.second.toPosition view.length
    view.like (((← view.items).take last).drop first),
  method "fill" 1 fun call => do
    let view ← viewOf call.this true
    let value ← toElement (view.element.getD .uint8) call.first
    let first ← call.second.toPosition view.length
    let last ← if (call.argument 2).isUndefined then pure view.length
      else (call.argument 2).toPosition view.length
    forIndices (last - first) fun index => view.set (first + index) value
    return call.this,
  viewWalk "every" fun view apply => do
    let found ← findIndex? view.length fun index => do
      return !(← apply index (← view.at index)).truthy
    return .boolean found.isNone,
  viewWalk "some" fun view apply => do
    let found ← findIndex? view.length fun index => do
      return (← apply index (← view.at index)).truthy
    return .boolean found.isSome,
  viewWalk "forEach" fun view apply => do
    forIndices view.length fun index => do discard <| apply index (← view.at index)
    return .undefined,
  viewWalk "map" fun view apply => do
    view.like (← (List.range view.length).mapM fun index => do apply index (← view.at index)),
  viewWalk "filter" fun view apply => do
    view.like (← (← view.items).zipIdx.filterMapM fun (value, index) => do
      if (← apply index value).truthy then return some value else return none),
  viewWalk "find" fun view apply => do
    match ← findIndex? view.length fun index => do return (← apply index (← view.at index)).truthy with
    | some index => view.at index
    | none => return .undefined,
  viewWalk "findIndex" fun view apply => do
    return indexOrMinusOne (← findIndex? view.length fun index => do
      return (← apply index (← view.at index)).truthy),
  method "reduce" 1 fun call => do
    discard <| viewOf call.this true
    reduce call true,
  method "reduceRight" 1 fun call => do
    discard <| viewOf call.this true
    reduce call false,
  method "reverse" 0 fun call => do
    let view ← viewOf call.this true
    for (value, index) in (← view.items).reverse.zipIdx do
      view.set index value
    return call.this,
  method "sort" 1 fun call => do
    let view ← viewOf call.this true
    checkOrder call.first
    let items ← view.items
    let sorted ← if call.first.isUndefined then
        pure (items.mergeSort fun a b => comparePrimitives b a != some .lt)
      else sortValues items call.first
    for (value, index) in sorted.zipIdx do
      view.set index value
    return call.this,
  method "join" 1 fun call => do
    let view ← viewOf call.this true
    let separator ← if call.first.isUndefined then pure (Units.ofString ",") else call.first.toUnits
    newText (Units.join separator ((← view.items).map Value.plainText)),
  method "indexOf" 1 fun call => do
    let view ← viewOf call.this true
    let start ← searchStart call view.length
    return indexOrMinusOne (((← view.items).zipIdx.find? fun (value, index) =>
      start ≤ index && Value.same value call.first).map (·.2)),
  method "includes" 1 fun call => do
    let view ← viewOf call.this true
    let start ← searchStart call view.length
    return .boolean ((← view.items).zipIdx.any fun (value, index) =>
      start ≤ index && Value.sameOrNaN value call.first)]

/-! ### Views of any kind -/

def makeDataView : Method :=
  constructor "DataView" 1 fun call => do
    requireNew call
    let (buffer, bytes) ← bytesOf call.first
    let offset ← call.second.toIndex
    if bytes.size < offset then throwNew .rangeError "invalid byteOffset"
    else
      let length ← if (call.argument 2).isUndefined then pure (bytes.size - offset)
        else (call.argument 2).toIndex
      if bytes.size < offset + length then throwNew .rangeError "invalid byteLength"
      else return .object (← newFor call.newTarget .viewPrototype (.view none buffer offset length))

def dataViewGetters : List (String × Method) := [
  ("buffer", method "get buffer" 0 fun call => do return .object (← viewOf call.this false).buffer),
  ("byteLength", method "get byteLength" 0 fun call => do return .ofNat (← viewOf call.this false).length),
  ("byteOffset", method "get byteOffset" 0 fun call => do return .ofNat (← viewOf call.this false).offset)]

def viewElements : List (String × ElementType) := [
  ("Int8", .int8), ("Uint8", .uint8), ("Int16", .int16), ("Uint16", .uint16), ("Int32", .int32),
  ("Uint32", .uint32), ("BigInt64", .bigInt64), ("BigUint64", .bigUint64), ("Float32", .float32),
  ("Float64", .float64)]

def elementPlace (view : View) (position : Value) (element : ElementType) : Execution Nat := do
  let index ← position.toIndex
  if view.length < index + element.size then throwNew .rangeError "out of bound"
  else return view.offset + index

def reversed (bytes : ByteArray) : ByteArray := ByteArray.mk bytes.data.reverse

def dataViewMethods : List Method :=
  viewElements.map (fun (name, element) =>
    method ("get" ++ name) 1 fun call => do
      let view ← viewOf call.this false
      let place ← elementPlace view call.first element
      let (_, bytes) ← bytesOf (.object view.buffer)
      let part := bytes.extract place (place + element.size)
      return element.read (if call.second.truthy then part else reversed part) 0) ++
  viewElements.map (fun (name, element) =>
    method ("set" ++ name) 2 fun call => do
      let view ← viewOf call.this false
      let place ← elementPlace view call.first element
      let value ← toElement element call.second
      let part := element.write (ByteArray.mk (Array.replicate element.size 0)) 0 value
      let part := if (call.argument 2).truthy then part else reversed part
      modifyObject view.buffer fun object => match object.kind with
        | .buffer bytes => { object with kind := .buffer (part.copySlice 0 bytes place part.size) }
        | _ => object
      return .undefined)

end ScriptSandbox.Script.Library
