import ScriptSandbox.Dialogue
import ScriptSandbox.Script.Heap

/-!
The state of a running script, and computations on it. A computation ends with a value, with a value
that it throws, or because it was stopped, which no script can observe; on its way it may ask the host.
-/

namespace ScriptSandbox.Script

/-- Objects that the language itself refers to; each has a fixed place in the heap. -/
inductive Intrinsic where
  | global | objectPrototype | functionPrototype | arrayPrototype | stringPrototype | numberPrototype
  | booleanPrototype | symbolPrototype | bigintPrototype | errorPrototype | typeErrorPrototype
  | rangeErrorPrototype | syntaxErrorPrototype | referenceErrorPrototype | evalErrorPrototype
  | uriErrorPrototype | internalErrorPrototype | aggregateErrorPrototype | iteratorPrototype
  | arrayIteratorPrototype | mapIteratorPrototype | setIteratorPrototype | stringIteratorPrototype
  | regexpIteratorPrototype | generatorFunctionPrototype | generatorPrototype | asyncFunctionPrototype
  | asyncGeneratorFunctionPrototype | asyncGeneratorPrototype | asyncIteratorPrototype | mapPrototype
  | setPrototype | weakMapPrototype | weakSetPrototype | weakRefPrototype | promisePrototype
  | datePrototype | regexpPrototype | bufferPrototype | viewPrototype | typedArrayPrototype
  | int8Prototype | uint8Prototype | clampedPrototype | int16Prototype | uint16Prototype
  | int32Prototype | uint32Prototype | bigInt64Prototype | bigUint64Prototype | float32Prototype
  | float64Prototype | arrayConstructor | promiseConstructor | evalFunction | arrayValues | arrayJoin
  | typedArrayConstructor | thrower | performance | console
  deriving DecidableEq, Inhabited

def Intrinsic.ref (intrinsic : Intrinsic) : Ref := intrinsic.ctorIdx

def Intrinsic.value (intrinsic : Intrinsic) : Value := .object intrinsic.ref

def Intrinsic.count : Nat := Intrinsic.console.ctorIdx + 1

inductive ErrorClass where
  | error | typeError | rangeError | syntaxError | referenceError | evalError | uriError
  | internalError | aggregateError
  deriving DecidableEq

namespace ErrorClass

def all : List ErrorClass :=
  [.error, .typeError, .rangeError, .syntaxError, .referenceError, .evalError, .uriError,
    .internalError, .aggregateError]

def name : ErrorClass → String
  | .error => "Error"
  | .typeError => "TypeError"
  | .rangeError => "RangeError"
  | .syntaxError => "SyntaxError"
  | .referenceError => "ReferenceError"
  | .evalError => "EvalError"
  | .uriError => "URIError"
  | .internalError => "InternalError"
  | .aggregateError => "AggregateError"

def prototype : ErrorClass → Intrinsic
  | .error => .errorPrototype
  | .typeError => .typeErrorPrototype
  | .rangeError => .rangeErrorPrototype
  | .syntaxError => .syntaxErrorPrototype
  | .referenceError => .referenceErrorPrototype
  | .evalError => .evalErrorPrototype
  | .uriError => .uriErrorPrototype
  | .internalError => .internalErrorPrototype
  | .aggregateError => .aggregateErrorPrototype

end ErrorClass

structure GlobalName where
  cell : Nat
  constant : Bool

structure Machine where
  heap : Array Object
  cells : Array Value
  /-- The descriptions of symbols. -/
  symbols : Array (Option Units)
  /-- Symbols that are shared by name. -/
  registry : List (Units × Nat)
  globals : Std.HashMap String GlobalName
  /-- Turns until the host is asked whether to stop. -/
  patience : Nat
  depth : Nat
  /-- Calls that wait for a function of the library, the innermost first. -/
  waiting : List (List Frame)
  /-- The memory that may be used beyond the start, if it is limited. -/
  limit : Option Nat
  /-- Memory in use at the start. -/
  baseline : Nat
  /-- Memory handed out since it was last measured. -/
  charged : Nat
  /-- The state of the random numbers. -/
  seed : UInt64
  deriving Inhabited

inductive Stop where
  /-- The host said so. -/
  | interrupted
  /-- It took more steps than there are. -/
  | exhausted
  deriving DecidableEq

inductive Outcome (α : Type) where
  | value (result : α) (machine : Machine)
  | thrown (reason : Value) (machine : Machine)
  | stopped (stop : Stop) (machine : Machine)

def Execution (α : Type) := Machine → Dialogue (Outcome α)

/-- What a session runs. -/
abbrev Script := Execution

namespace Execution

/-- What follows an outcome: nothing, if a value was thrown or the computation was stopped. -/
@[inline] def follow (next : α → Execution β) : Outcome α → Dialogue (Outcome β)
  | .value result machine => next result machine
  | .thrown reason machine => .done (.thrown reason machine)
  | .stopped stop machine => .done (.stopped stop machine)

@[always_inline, inline] protected def bind (first : Execution α) (next : α → Execution β) : Execution β :=
  fun machine =>
    match first machine with
    | .done (.value result machine) => next result machine
    | .done (.thrown reason machine) => .done (.thrown reason machine)
    | .done (.stopped stop machine) => .done (.stopped stop machine)
    | .ask question rest => .ask question fun answer => (rest answer).bind (follow next)

@[always_inline, inline] protected def pure (result : α) : Execution α :=
  fun machine => .done (.value result machine)

instance : Monad Execution where
  pure := Execution.pure
  bind := Execution.bind

instance : Inhabited (Execution α) := ⟨fun machine => .done (.stopped .exhausted machine)⟩

theorem bind_eq (first : Execution α) (next : α → Execution β) (machine : Machine) :
    (first >>= next) machine = (first machine).bind (follow next) := by
  show Execution.bind first next machine = _
  unfold Execution.bind
  cases first machine with
  | done outcome => cases outcome <;> rfl
  | ask question rest => rfl

@[inline] def get : Execution Machine := fun machine => .done (.value machine machine)

@[inline] def modify (change : Machine → Machine) : Execution Unit :=
  fun machine => .done (.value () (change machine))

@[inline] def gets (part : Machine → α) : Execution α :=
  fun machine => .done (.value (part machine) machine)

def throwValue (reason : Value) : Execution α := fun machine => .done (.thrown reason machine)

def stop (reason : Stop) : Execution α := fun machine => .done (.stopped reason machine)

def ask (question : Question) : Execution question.Answer :=
  fun machine => .ask question fun answer => .done (.value answer machine)

inductive Ending (α : Type) where
  | value (result : α)
  | thrown (reason : Value)
  | stopped (stop : Stop)

def settle (depth : Nat) (waiting : List (List Frame)) :
    Outcome α → Dialogue (Outcome (Ending α))
  | .value result machine => .done (.value (.value result) machine)
  | .thrown reason machine => .done (.value (.thrown reason) { machine with depth, waiting })
  | .stopped stop machine => .done (.value (.stopped stop) { machine with depth, waiting })

/-- How a computation ends, even if it is stopped. Only the library uses this on stopped computations;
scripts have no way to. -/
def attempt (part : Execution α) : Execution (Ending α) := fun machine =>
  let depth := machine.depth
  let waiting := machine.waiting
  (part machine).bind (settle depth waiting)

/-- What a part of a computation gives, or nothing if it throws or the host stops it. Only the library
uses this; what the part left behind is thrown away. -/
def quietly (part : Execution α) : Execution (Option α) := do
  match ← attempt part with
  | .value result => return some result
  | .thrown _ => return none
  | .stopped .interrupted => return none
  | .stopped .exhausted => stop .exhausted

/-- Repeats a step until it gives a result; the number bounds the steps. -/
def iterate (step : σ → Execution (σ ⊕ α)) : Nat → σ → Execution α
  | 0, _, machine => .done (.stopped .exhausted machine)
  | count + 1, state, machine =>
    match step state machine with
    | .done (.value (.inl state) machine) => iterate step count state machine
    | .done (.value (.inr result) machine) => .done (.value result machine)
    | .done (.thrown reason machine) => .done (.thrown reason machine)
    | .done (.stopped stop machine) => .done (.stopped stop machine)
    | .ask question rest => .ask question fun answer =>
      (rest answer).bind fun
        | .value (.inl state) machine => iterate step count state machine
        | .value (.inr result) machine => .done (.value result machine)
        | .thrown reason machine => .done (.thrown reason machine)
        | .stopped stop machine => .done (.stopped stop machine)

/-- More steps than any script makes. -/
def plenty : Nat := 1000000000000000

@[inline] def repeating (start : σ) (step : σ → Execution (σ ⊕ α)) : Execution α :=
  iterate step plenty start

end Execution

open Execution

/-! ### Objects -/

def objectAt (ref : Ref) : Execution Object := gets fun machine => machine.heap.getD ref default

def kindOf (ref : Ref) : Execution Kind := gets fun machine => (machine.heap.getD ref default).kind

def modifyObject (ref : Ref) (change : Object → Object) : Execution Unit :=
  modify fun machine => { machine with heap := machine.heap.modify ref change }

def setKind (ref : Ref) (kind : Kind) : Execution Unit :=
  modifyObject ref fun object => { object with kind }

def objectSize : Nat := 72

def note (size : Nat) : Execution Unit :=
  modify fun machine => { machine with charged := machine.charged + size }

def allocate (object : Object) : Execution Ref := fun machine =>
  let ref := machine.heap.size
  .done (.value ref { machine with
    heap := machine.heap.push object, charged := machine.charged + objectSize })

def newObject (kind : Kind) (parent : Intrinsic) : Execution Ref :=
  allocate (Object.create kind (some parent.ref))

def traceText : Units := Units.ofString "    at <anonymous>\n"

def makeError (cls : ErrorClass) (message : Units) : Execution Value := do
  let properties := (Properties.empty.insert (.ofString "message") (.hidden (.text message))).insert
    (.ofString "stack") (.hidden (.text traceText))
  let ref ← allocate
    { kind := .error, parent := some cls.prototype.ref, extensible := true, properties }
  return .object ref

def throwNew (cls : ErrorClass) (message : String) : Execution α := do
  throwValue (← makeError cls (Units.ofString message))

def throwType (message : String) : Execution α := throwNew .typeError message

def outOfMemory : Execution α := throwNew .internalError "out of memory"

def charge (size : Nat) : Execution Unit := do
  let machine ← get
  let limit := machine.limit
  let charged := machine.charged + size
  match limit with
  | some limit =>
    if limit < charged then
      modify fun machine => { machine with charged := machine.charged }
      outOfMemory
    else note size
  | none => note size

def textSize (text : Units) : Nat :=
  24 + (if text.any (255 < ·) then 2 * text.size else text.size)

def newText (text : Units) : Execution Value := do
  if 256 ≤ text.size then charge (textSize text)
  return .text text

def newArrayOf (elements : Array Value) : Execution Value := do
  charge (16 * elements.size)
  return .object (← newObject (.array elements elements.size false) .arrayPrototype)

def newSymbol (description : Option Units) : Execution Nat := fun machine =>
  .done (.value machine.symbols.size { machine with symbols := machine.symbols.push description })

def newCell (value : Value) : Execution Nat := fun machine =>
  .done (.value machine.cells.size { machine with cells := machine.cells.push value })

/-! ### The parts of the language that call each other -/

class Engine where
  call : (function this : Value) → (arguments : Array Value) → Execution Value
  construct : (function : Value) → (arguments : Array Value) → (newTarget : Value) → Execution Value
  /-- Resumes a generator: what it gives, and whether it is over. -/
  resume : (generator : Ref) → Resumption → Execution (Value × Bool)
  /-- Evaluates text outside all functions. -/
  evaluate : (source : Units) → Execution Value

export Engine (call construct)

structure Call where
  this : Value
  arguments : Array Value
  /-- What `new` was applied to; `undefined` for a plain call. -/
  newTarget : Value
  callee : Ref
  data : Array Value

namespace Call

def argument (call : Call) (index : Nat) : Value := call.arguments.getD index .undefined

def first (call : Call) : Value := call.argument 0

def second (call : Call) : Value := call.argument 1

def count (call : Call) : Nat := call.arguments.size

end Call

structure Method where
  name : String
  length : Nat
  constructs : Bool
  run : [Engine] → Call → Execution Value

inductive Internal where
  | resolvePromise | rejectPromise | capability | revokeProxy
  | allElement | settledElement | rejectedElement | anyElement | thenFinally | catchFinally | constant | thrower
  deriving DecidableEq

def Internal.id (internal : Internal) : Nat := internal.ctorIdx

def method (name : String) (length : Nat) (run : [Engine] → Call → Execution Value) : Method :=
  { name, length, constructs := false, run }

def constructor (name : String) (length : Nat) (run : [Engine] → Call → Execution Value) : Method :=
  { name, length, constructs := true, run }

end ScriptSandbox.Script
