import ScriptSandbox.Script.Interpreter
import ScriptSandbox.Script.Library.Buffer
import ScriptSandbox.Script.Library.Date
import ScriptSandbox.Script.Library.Error
import ScriptSandbox.Script.Library.Generator
import ScriptSandbox.Script.Library.Global
import ScriptSandbox.Script.Library.Json
import ScriptSandbox.Script.Library.Math
import ScriptSandbox.Script.Library.Promise
import ScriptSandbox.Script.Library.Symbol
import ScriptSandbox.Script.Library.Text

/-!
The realm that scripts start in: all objects of the library, in a heap where each intrinsic object has
its fixed place, and the table of the functions behind them.
-/

namespace ScriptSandbox.Script

structure Realm where
  heap : Array Object
  methods : Array Method
  deriving Inhabited

abbrev Furnish := StateM Realm

namespace Realm

open Library

/-! ### Building blocks -/

def addMethod (method : Method) : Furnish Nat :=
  modifyGet fun realm => (realm.methods.size, { realm with methods := realm.methods.push method })

def addObject (object : Object) : Furnish Ref :=
  modifyGet fun realm => (realm.heap.size, { realm with heap := realm.heap.push object })

def change (ref : Ref) (f : Object → Object) : Furnish Unit :=
  modify fun realm => { realm with heap := realm.heap.modify ref f }

def property (ref : Ref) (key : Key) (property : Property) : Furnish Unit :=
  change ref (·.store key property)

def hidden (ref : Ref) (name : String) (value : Value) : Furnish Unit :=
  property ref (.ofString name) (.hidden value)

def tag (ref : Ref) (name : String) : Furnish Unit :=
  property ref WellKnown.toStringTag.key (.steady (.ofString name))

def functionObject (id : Nat) (method : Method) (parent : Ref) : Object :=
  { kind := .native id method.constructs #[], parent := some parent, extensible := true
    properties := functionProperties (Units.ofString method.name) method.length }

def addFunction (method : Method) : Furnish Ref := do
  addObject (functionObject (← addMethod method) method Intrinsic.functionPrototype.ref)

def placeFunction (intrinsic : Intrinsic) (method : Method) (parent : Ref) : Furnish Unit := do
  let id ← addMethod method
  change intrinsic.ref fun _ => functionObject id method parent

def give (ref : Ref) (method : Method) : Furnish Unit := do
  hidden ref method.name (.object (← addFunction method))

def giveAll (ref : Ref) (methods : List Method) : Furnish Unit := methods.forM (give ref)

def giveAt (ref : Ref) (symbol : WellKnown) (method : Method) : Furnish Unit := do
  property ref symbol.key (.hidden (.object (← addFunction method)))

def objectIn (ref : Ref) (key : Key) : Furnish (Option Ref) := do
  match ((← get).heap.getD ref default).properties.find? key with
  | some { content := .value (.object found), .. } => return some found
  | _ => return none

def getter (ref : Ref) (key : Key) (method : Method) : Furnish Unit := do
  let function ← addFunction method
  property ref key { content := .accessor (.object function) .undefined, writable := false
                     enumerable := false, configurable := true }

def getters (ref : Ref) (found : List (String × Method)) : Furnish Unit :=
  found.forM fun (name, method) => getter ref (.ofString name) method

def constants (ref : Ref) (found : List (String × Float)) : Furnish Unit :=
  found.forM fun (name, x) => property ref (.ofString name) (.fixed (.ofFloat x))

def tie (constructor prototype : Ref) : Furnish Unit := do
  property constructor prototypeKey (.fixed (.object prototype))
  property prototype constructorKey (.hidden (.object constructor))

def giveClass (constructor : Method) (prototype : Ref) : Furnish Ref := do
  let ref ← addFunction constructor
  tie ref prototype
  hidden Intrinsic.global.ref constructor.name (.object ref)
  return ref

def placeClass (place : Intrinsic) (constructor : Method) (prototype : Ref) : Furnish Unit := do
  placeFunction place constructor Intrinsic.functionPrototype.ref
  tie place.ref prototype
  hidden Intrinsic.global.ref constructor.name place.value

def giveNamespace (name : String) : Furnish Ref := do
  let ref ← addObject (Object.create .ordinary (some Intrinsic.objectPrototype.ref))
  hidden Intrinsic.global.ref name (.object ref)
  return ref

/-- `Symbol.species` gives the constructor that it is asked of. -/
def species (ref : Ref) : Furnish Unit :=
  getter ref WellKnown.species.key (method "get [Symbol.species]" 0 fun call => return call.this)

def selfIterator : Method := method "[Symbol.iterator]" 0 fun call => return call.this

/-! ### The parts of the realm -/

/-- The functions that the library makes while it runs come first. -/
def internals : List Method := [
  resolveMethod, rejectMethod, capabilityMethod, revokeProxy, allElementMethod, settledElementMethod,
  rejectedElementMethod, anyElementMethod, thenFinallyMethod, catchFinallyMethod, constantMethod,
  throwerMethod]

def intrinsicKind : Intrinsic → Kind × Option Intrinsic
  | .global => (.global, some .objectPrototype)
  | .objectPrototype => (.ordinary, none)
  | .arrayPrototype => (.array #[] 0 false, some .objectPrototype)
  | .stringPrototype => (.boxed (.text #[]), some .objectPrototype)
  | .numberPrototype => (.boxed (.integer 0), some .objectPrototype)
  | .booleanPrototype => (.boxed (.boolean false), some .objectPrototype)
  | .typeErrorPrototype => (.ordinary, some .errorPrototype)
  | .rangeErrorPrototype => (.ordinary, some .errorPrototype)
  | .syntaxErrorPrototype => (.ordinary, some .errorPrototype)
  | .referenceErrorPrototype => (.ordinary, some .errorPrototype)
  | .evalErrorPrototype => (.ordinary, some .errorPrototype)
  | .uriErrorPrototype => (.ordinary, some .errorPrototype)
  | .internalErrorPrototype => (.ordinary, some .errorPrototype)
  | .aggregateErrorPrototype => (.ordinary, some .errorPrototype)
  | .arrayIteratorPrototype => (.ordinary, some .iteratorPrototype)
  | .mapIteratorPrototype => (.ordinary, some .iteratorPrototype)
  | .setIteratorPrototype => (.ordinary, some .iteratorPrototype)
  | .stringIteratorPrototype => (.ordinary, some .iteratorPrototype)
  | .regexpIteratorPrototype => (.ordinary, some .iteratorPrototype)
  | .generatorPrototype => (.ordinary, some .iteratorPrototype)
  | .generatorFunctionPrototype => (.ordinary, some .functionPrototype)
  | .asyncFunctionPrototype => (.ordinary, some .functionPrototype)
  | .asyncGeneratorFunctionPrototype => (.ordinary, some .functionPrototype)
  | .asyncGeneratorPrototype => (.ordinary, some .asyncIteratorPrototype)
  | .int8Prototype => (.ordinary, some .typedArrayPrototype)
  | .uint8Prototype => (.ordinary, some .typedArrayPrototype)
  | .clampedPrototype => (.ordinary, some .typedArrayPrototype)
  | .int16Prototype => (.ordinary, some .typedArrayPrototype)
  | .uint16Prototype => (.ordinary, some .typedArrayPrototype)
  | .int32Prototype => (.ordinary, some .typedArrayPrototype)
  | .uint32Prototype => (.ordinary, some .typedArrayPrototype)
  | .bigInt64Prototype => (.ordinary, some .typedArrayPrototype)
  | .bigUint64Prototype => (.ordinary, some .typedArrayPrototype)
  | .float32Prototype => (.ordinary, some .typedArrayPrototype)
  | .float64Prototype => (.ordinary, some .typedArrayPrototype)
  | _ => (.ordinary, some .objectPrototype)

/-- All intrinsic objects, in the order of their places. -/
def intrinsics : List Intrinsic := [
  .global, .objectPrototype, .functionPrototype, .arrayPrototype, .stringPrototype, .numberPrototype,
  .booleanPrototype, .symbolPrototype, .bigintPrototype, .errorPrototype, .typeErrorPrototype,
  .rangeErrorPrototype, .syntaxErrorPrototype, .referenceErrorPrototype, .evalErrorPrototype,
  .uriErrorPrototype, .internalErrorPrototype, .aggregateErrorPrototype, .iteratorPrototype,
  .arrayIteratorPrototype, .mapIteratorPrototype, .setIteratorPrototype, .stringIteratorPrototype,
  .regexpIteratorPrototype, .generatorFunctionPrototype, .generatorPrototype, .asyncFunctionPrototype,
  .asyncGeneratorFunctionPrototype, .asyncGeneratorPrototype, .asyncIteratorPrototype, .mapPrototype,
  .setPrototype, .weakMapPrototype, .weakSetPrototype, .weakRefPrototype, .promisePrototype,
  .datePrototype, .regexpPrototype, .bufferPrototype, .viewPrototype, .typedArrayPrototype,
  .int8Prototype, .uint8Prototype, .clampedPrototype, .int16Prototype, .uint16Prototype,
  .int32Prototype, .uint32Prototype, .bigInt64Prototype, .bigUint64Prototype, .float32Prototype,
  .float64Prototype, .arrayConstructor, .promiseConstructor, .evalFunction, .arrayValues, .arrayJoin,
  .typedArrayConstructor, .thrower, .performance, .console]

theorem intrinsics_places : intrinsics.map Intrinsic.ref = List.range Intrinsic.count := by decide

def start : Realm :=
  { methods := internals.toArray
    heap := (intrinsics.map fun intrinsic =>
      let (kind, parent) := intrinsicKind intrinsic
      Object.create kind (parent.map Intrinsic.ref)).toArray }

def furnishObjects : Furnish Unit := do
  let prototype := Intrinsic.objectPrototype.ref
  let constructor ← giveClass makeObject prototype
  giveAll constructor objectStatics
  giveAll prototype objectMethods
  let read ← addFunction getParent
  let write ← addFunction setParent
  property prototype (.ofString "__proto__")
    { content := .accessor (.object read) (.object write), writable := false, enumerable := false
      configurable := true }
  let reflect ← giveNamespace "Reflect"
  giveAll reflect reflectMethods
  tag reflect "Reflect"
  let proxy ← addFunction makeProxy
  hidden Intrinsic.global.ref "Proxy" (.object proxy)
  giveAll proxy proxyStatics

def furnishFunctions : Furnish Unit := do
  let prototype := Intrinsic.functionPrototype.ref
  placeFunction .functionPrototype functionPrototypeCall Intrinsic.objectPrototype.ref
  discard <| giveClass makeFunction prototype
  giveAll prototype functionMethods
  let instance_ ← addFunction hasInstance
  property prototype WellKnown.hasInstance.key (.fixed (.object instance_))
  placeFunction .thrower
    (method "" 0 fun _ => throwType "invalid property access") Intrinsic.functionPrototype.ref
  for name in ["caller", "arguments"] do
    property prototype (.ofString name)
      { content := .accessor Intrinsic.thrower.value Intrinsic.thrower.value, writable := false
        enumerable := false, configurable := true }
  let special : List (Method × Intrinsic × String × Option Intrinsic) := [
    (makeGeneratorFunction, .generatorFunctionPrototype, "GeneratorFunction", some .generatorPrototype),
    (makeAsyncFunction, .asyncFunctionPrototype, "AsyncFunction", none),
    (makeAsyncGeneratorFunction, .asyncGeneratorFunctionPrototype, "AsyncGeneratorFunction",
      some .asyncGeneratorPrototype)]
  for (maker, place, name, objects) in special do
    let constructor ← addFunction maker
    property constructor prototypeKey (.fixed place.value)
    property place.ref constructorKey (.steady (.object constructor))
    tag place.ref name
    match objects with
    | some objects =>
      property place.ref prototypeKey (.steady objects.value)
      property objects.ref constructorKey (.steady place.value)
    | none => pure ()
  giveAll Intrinsic.generatorPrototype.ref generatorMethods
  tag Intrinsic.generatorPrototype.ref "Generator"
  giveAll Intrinsic.asyncGeneratorPrototype.ref asyncGeneratorMethods
  tag Intrinsic.asyncGeneratorPrototype.ref "AsyncGenerator"

def furnishErrors : Furnish Unit := do
  for cls in ErrorClass.all do
    let prototype := cls.prototype.ref
    let constructor ← giveClass (errorConstructor cls) prototype
    hidden prototype "name" (.ofString cls.name)
    hidden prototype "message" (.text #[])
    if cls = .error then
      giveAll constructor errorStatics
      giveAll prototype errorMethods
    else
      let realm ← get
      let parent := (realm.heap.getD Intrinsic.errorPrototype.ref default).properties.find? constructorKey
      match parent with
      | some { content := .value (.object error), .. } =>
        change constructor fun object => { object with parent := some error }
      | _ => pure ()

def furnishIterators : Furnish Unit := do
  giveAt Intrinsic.iteratorPrototype.ref .iterator selfIterator
  giveAt Intrinsic.asyncIteratorPrototype.ref .asyncIterator
    (method "[Symbol.asyncIterator]" 0 fun call => return call.this)
  let courses : List (Intrinsic × String) := [
    (.arrayIteratorPrototype, "Array Iterator"), (.mapIteratorPrototype, "Map Iterator"),
    (.setIteratorPrototype, "Set Iterator"), (.stringIteratorPrototype, "String Iterator")]
  for (place, name) in courses do
    giveAll place.ref iteratorMethods
    tag place.ref name
  giveAll Intrinsic.regexpIteratorPrototype.ref regexpIteratorMethods
  tag Intrinsic.regexpIteratorPrototype.ref "RegExp String Iterator"

def furnishArrays : Furnish Unit := do
  let prototype := Intrinsic.arrayPrototype.ref
  placeClass .arrayConstructor makeArray prototype
  giveAll Intrinsic.arrayConstructor.ref arrayStatics
  species Intrinsic.arrayConstructor.ref
  giveAll prototype arrayMethods
  placeFunction .arrayJoin joinMethod Intrinsic.functionPrototype.ref
  hidden prototype "join" Intrinsic.arrayJoin.value
  placeFunction .arrayValues valuesMethod Intrinsic.functionPrototype.ref
  hidden prototype "values" Intrinsic.arrayValues.value
  property prototype WellKnown.iterator.key (.hidden Intrinsic.arrayValues.value)
  let unscopables ← addObject (Object.create .ordinary none)
  for name in ["at", "copyWithin", "entries", "fill", "find", "findIndex", "findLast", "findLastIndex",
      "flat", "flatMap", "includes", "keys", "toReversed", "toSorted", "toSpliced", "values"] do
    property unscopables (.ofString name) (.plain (.boolean true))
  property prototype WellKnown.unscopables.key (.steady (.object unscopables))

def furnishTexts : Furnish Unit := do
  let prototype := Intrinsic.stringPrototype.ref
  let constructor ← giveClass makeText prototype
  giveAll constructor textStatics
  giveAll prototype textMethods
  giveAt prototype .iterator textIterator
  let regexp := Intrinsic.regexpPrototype.ref
  let constructor ← giveClass makeRegexpMethod regexp
  species constructor
  getters regexp regexpGetters
  giveAll regexp regexpMethods
  for (symbol, method) in symbolRegexpMethods do
    giveAt regexp symbol method

def furnishPrimitives : Furnish Unit := do
  let number ← giveClass makeNumber Intrinsic.numberPrototype.ref
  giveAll number numberStatics
  constants number numberConstants
  giveAll Intrinsic.numberPrototype.ref numberMethods
  discard <| giveClass makeBoolean Intrinsic.booleanPrototype.ref
  giveAll Intrinsic.booleanPrototype.ref booleanMethods
  let bigint ← giveClass makeBigInt Intrinsic.bigintPrototype.ref
  giveAll bigint bigintStatics
  giveAll Intrinsic.bigintPrototype.ref bigintMethods
  tag Intrinsic.bigintPrototype.ref "BigInt"
  let prototype := Intrinsic.symbolPrototype.ref
  let symbol ← giveClass makeSymbol prototype
  giveAll symbol symbolStatics
  for known in WellKnown.all do
    property symbol (.ofString known.name) (.fixed (.symbol known.id))
  giveAll prototype symbolMethods
  let toPrimitive ← addFunction symbolToPrimitive
  property prototype WellKnown.toPrimitive.key (.steady (.object toPrimitive))
  tag prototype "Symbol"
  getter prototype (.ofString "description") symbolDescriptionGetter
  let math ← giveNamespace "Math"
  giveAll math mathMethods
  constants math mathConstants
  tag math "Math"
  let json ← giveNamespace "JSON"
  giveAll json jsonMethods
  tag json "JSON"

def furnishCollections : Furnish Unit := do
  let map := Intrinsic.mapPrototype.ref
  let constructor ← giveClass (collectionConstructor "Map" .map .mapPrototype) map
  giveAll constructor mapStatics
  species constructor
  giveAll map mapMethods
  let entries ← addFunction mapEntries
  hidden map "entries" (.object entries)
  property map WellKnown.iterator.key (.hidden (.object entries))
  getter map (.ofString "size") (sizeGetter .map)
  tag map "Map"
  let set := Intrinsic.setPrototype.ref
  let constructor ← giveClass (collectionConstructor "Set" .set .setPrototype) set
  species constructor
  giveAll set setMethods
  let values ← addFunction setValues
  hidden set "values" (.object values)
  hidden set "keys" (.object values)
  property set WellKnown.iterator.key (.hidden (.object values))
  getter set (.ofString "size") (sizeGetter .set)
  tag set "Set"
  let weakMap := Intrinsic.weakMapPrototype.ref
  discard <| giveClass (collectionConstructor "WeakMap" .weakMap .weakMapPrototype) weakMap
  giveAll weakMap weakMapMethods
  tag weakMap "WeakMap"
  let weakSet := Intrinsic.weakSetPrototype.ref
  discard <| giveClass (collectionConstructor "WeakSet" .weakSet .weakSetPrototype) weakSet
  giveAll weakSet weakSetMethods
  tag weakSet "WeakSet"
  let weakRef := Intrinsic.weakRefPrototype.ref
  discard <| giveClass makeWeakRef weakRef
  giveAll weakRef weakRefMethods
  tag weakRef "WeakRef"
  let registry ← addObject (Object.create .ordinary (some Intrinsic.objectPrototype.ref))
  discard <| giveClass makeFinalizationRegistry registry
  giveAll registry finalizationRegistryMethods
  tag registry "FinalizationRegistry"

def furnishPromises : Furnish Unit := do
  let prototype := Intrinsic.promisePrototype.ref
  placeClass .promiseConstructor makePromise prototype
  giveAll Intrinsic.promiseConstructor.ref promiseStatics
  species Intrinsic.promiseConstructor.ref
  giveAll prototype promiseMethods
  tag prototype "Promise"

def furnishDates : Furnish Unit := do
  let prototype := Intrinsic.datePrototype.ref
  let constructor ← giveClass makeDate prototype
  giveAll constructor dateStatics
  giveAll prototype dateMethods
  let toPrimitive ← addFunction dateToPrimitive
  property prototype WellKnown.toPrimitive.key (.steady (.object toPrimitive))

def furnishBuffers : Furnish Unit := do
  let buffer := Intrinsic.bufferPrototype.ref
  let maker ← giveClass makeBuffer buffer
  giveAll maker bufferStatics
  species maker
  getter buffer (.ofString "byteLength") byteLengthGetter
  giveAll buffer bufferMethods
  tag buffer "ArrayBuffer"
  let prototype := Intrinsic.typedArrayPrototype.ref
  placeFunction .typedArrayConstructor
    (constructor "TypedArray" 0 fun _ => throwType "cannot be called") Intrinsic.functionPrototype.ref
  tie Intrinsic.typedArrayConstructor.ref prototype
  giveAll Intrinsic.typedArrayConstructor.ref viewStatics
  species Intrinsic.typedArrayConstructor.ref
  getters prototype viewGetters
  getter prototype WellKnown.toStringTag.key viewTag
  giveAll prototype viewMethods
  match ← objectIn Intrinsic.arrayPrototype.ref (.ofString "toString") with
  | some join => hidden prototype "toString" (.object join)
  | none => pure ()
  let values ← addFunction viewValues
  hidden prototype "values" (.object values)
  property prototype WellKnown.iterator.key (.hidden (.object values))
  for element in ElementType.all do
    let place := (elementPrototype element).ref
    let maker ← giveClass (makeView element) place
    change maker fun object => { object with parent := some Intrinsic.typedArrayConstructor.ref }
    for ref in [maker, place] do
      property ref (.ofString "BYTES_PER_ELEMENT") (.fixed (.ofNat element.size))
  let view := Intrinsic.viewPrototype.ref
  discard <| giveClass makeDataView view
  getters view dataViewGetters
  giveAll view dataViewMethods
  tag view "DataView"

def furnishGlobal : Furnish Unit := do
  let global := Intrinsic.global.ref
  hidden global "globalThis" Intrinsic.global.value
  giveAll global globalMethods
  placeFunction .evalFunction evalMethod Intrinsic.functionPrototype.ref
  hidden global "eval" Intrinsic.evalFunction.value
  property global (.ofString "Infinity") (.fixed (.number Number.infinity))
  property global (.ofString "NaN") (.fixed (.number Number.nan))
  property global (.ofString "undefined") (.fixed .undefined)
  tag global "global"

def furnished : Realm :=
  (do
    furnishObjects
    furnishFunctions
    furnishErrors
    furnishIterators
    furnishArrays
    furnishTexts
    furnishPrimitives
    furnishCollections
    furnishPromises
    furnishDates
    furnishBuffers
    furnishGlobal : Furnish Unit).run start |>.2

def machine (realm : Realm) : Machine :=
  { heap := realm.heap, cells := #[]
    symbols := (WellKnown.all.map fun symbol =>
      some (Units.ofString ("Symbol." ++ symbol.name))).toArray
    registry := [], globals := ∅, patience, depth := 0, waiting := [], limit := none, baseline := 0
    charged := 0, seed := 0x9E3779B97F4A7C15 }

end Realm

end ScriptSandbox.Script
