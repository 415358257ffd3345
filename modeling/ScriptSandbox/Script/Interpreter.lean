import ScriptSandbox.Script.Instructions
import ScriptSandbox.Script.Memory

/-!
Running code. The loop takes one instruction after another from the call at hand; calls of functions of
the script are pushed onto a list of waiting ones, and functions of the library run by themselves. On
every way back to the start of a loop and on every call, the host may be asked whether to stop, and
memory may be measured.
-/

namespace ScriptSandbox.Script

open Execution

class Catalog where
  methods : Array Method

inductive Exit where
  | returned (value : Value)
  /-- A generator gives a value. -/
  | yielded (value : Value) (frame : Frame)

/-- Turns of loops and calls between two questions to the host. -/
def patience : Nat := 10000

/-- Calls of functions of the script that may wait for each other. -/
def deepest : Nat := 6000

namespace Frame

def start (closure : Closure) (self this : Value) (arguments : Array Value) (newTarget : Value)
    (constructs : Bool) : Frame :=
  let code := closure.code
  let arrow := code.kind = .arrow
  { code, pc := 0, stack := #[], slots := Array.replicate code.slots .undefined
    cells := Array.replicate code.cells 0, captured := closure.captured
    this := if arrow then closure.this else this, arguments
    self := if arrow then closure.self else self
    home := closure.home, newTarget := if arrow then closure.newTarget else newTarget
    handlers := [], constructs, ending := false, resumption := .next .undefined, owner := none }

@[inline] def advance (frame : Frame) : Frame := { frame with pc := frame.pc + 1 }

@[inline] def push (frame : Frame) (value : Value) : Frame :=
  { frame with pc := frame.pc + 1, stack := frame.stack.push value }

@[inline] def pop (frame : Frame) : Frame :=
  { frame with pc := frame.pc + 1, stack := frame.stack.pop }

@[inline] def top (frame : Frame) (depth : Nat) : Value :=
  frame.stack.getD (frame.stack.size - 1 - depth) .undefined

@[inline] def drop (frame : Frame) (count : Nat) : Frame :=
  { frame with stack := frame.stack.shrink (frame.stack.size - count) }

@[inline] def setSlot (frame : Frame) (slot : Nat) (value : Value) : Frame :=
  { frame with slots := frame.slots.setIfInBounds slot value }

@[inline] def goTo (frame : Frame) (target : Nat) : Frame := { frame with pc := target }

def finish (frame : Frame) (takes : Nat) (pushed : Pushed) : Frame :=
  match pushed with
  | .nothing => { frame with pc := frame.pc + 1, stack := frame.stack.shrink (frame.stack.size - takes) }
  | .one value =>
    { frame with pc := frame.pc + 1, stack := (frame.stack.shrink (frame.stack.size - takes)).push value }
  | .two first second =>
    { frame with pc := frame.pc + 1
                 stack := ((frame.stack.shrink (frame.stack.size - takes)).push first).push second }

@[inline] def readPlace (frame : Frame) (machine : Machine) (place : Place) : Value :=
  match place with
  | .slot index => frame.slots.getD index .undefined
  | .cell index => machine.cells.getD (frame.cells.getD index 0) .undefined
  | .captured index => machine.cells.getD (frame.captured.getD index 0) .undefined

def clearPlace (frame : Frame) (machine : Machine) (place : Place) : Frame × Machine :=
  match place with
  | .slot index => (frame.setSlot index .undefined, machine)
  | .cell index =>
    let cell := frame.cells.getD index 0
    (frame, { machine with cells := machine.cells.setIfInBounds cell .undefined })
  | .captured index =>
    let cell := frame.captured.getD index 0
    (frame, { machine with cells := machine.cells.setIfInBounds cell .undefined })

def insertBelow (frame : Frame) (depth : Nat) : Frame :=
  let value := frame.top 0
  let below := frame.stack.size - 1 - depth
  { frame with pc := frame.pc + 1
               stack := (frame.stack.extract 0 below).push value ++ frame.stack.extract below frame.stack.size }

def iterationAt (frame : Frame) (slot : Nat) : Iteration :=
  { iterator := frame.slots.getD slot .undefined, next := frame.slots.getD (slot + 1) .undefined }

def isDone (frame : Frame) (slot : Nat) : Bool := (frame.slots.getD (slot + 2) .undefined).truthy

def markDone (frame : Frame) (slot : Nat) : Frame := frame.setSlot (slot + 2) (.boolean true)

end Frame

/-! ### Calls -/

inductive Entered where
  | frame (frame : Frame)
  | result (value : Value)

variable [Engine] [Catalog]

def notCallable : Execution α := throwType "not a function"

def descend : Execution Unit := do
  let depth := (← get).depth
  if deepest ≤ depth then stackOverflow
  else modify fun machine => { machine with depth := depth + 1 }

def runNative (id : Nat) (call : Call) : Execution Value := do
  match Catalog.methods[id]? with
  | some method => method.run call
  | none => notCallable

def lenientThis (this : Value) : Execution Value := do
  match this with
  | .undefined => return Intrinsic.global.value
  | .null => return Intrinsic.global.value
  | .object _ => return this
  | other => return .object (← other.toObject)

def enter : Nat → (function this : Value) → Array Value → Execution Entered
  | 0, _, _, _ => stackOverflow
  | depth + 1, function, this, arguments => do
    match function with
    | .object ref =>
      match ← kindOf ref with
      | .closure closure =>
        match closure.code.kind with
        | .constructor _ => throwType "class constructors must be invoked with 'new'"
        | _ =>
          descend
          let this ← if closure.code.strict then pure this else lenientThis this
          return .frame (.start closure function this arguments .undefined false)
      | .native id _ data =>
        return .result (← runNative id { this, arguments, newTarget := .undefined, callee := ref, data })
      | .bound target bound first => enter depth (.object target) bound (first ++ arguments)
      | .proxy _ _ true _ =>
        let (target, handler) ← proxyParts ref
        match ← (Value.object handler).getMethod (.ofString "apply") with
        | none => enter depth (.object target) this arguments
        | some trap =>
          let list ← newArrayOf arguments
          enter depth trap (.object handler) #[.object target, this, list]
      | _ => notCallable
    | _ => notCallable

def notConstructor : Execution α := throwType "not a constructor"

def enterNew : Nat → (function : Value) → Array Value → (newTarget : Value) → Execution Entered
  | 0, _, _, _ => stackOverflow
  | depth + 1, function, arguments, newTarget => do
    match function with
    | .object ref =>
      match ← kindOf ref with
      | .closure closure =>
        if !closure.code.constructs then notConstructor
        else
          descend
          match closure.code.kind with
          | .constructor true =>
            return .frame (.start closure function .absent arguments newTarget true)
          | _ =>
            let object ← newFor newTarget .objectPrototype .ordinary
            return .frame (.start closure function (.object object) arguments newTarget true)
      | .native id true data =>
        return .result (← runNative id { this := .undefined, arguments, newTarget, callee := ref, data })
      | .bound target _ first =>
        let newTarget := if Value.same newTarget function then .object target else newTarget
        enterNew depth (.object target) (first ++ arguments) newTarget
      | .proxy _ _ _ true =>
        let (target, handler) ← proxyParts ref
        match ← (Value.object handler).getMethod (.ofString "construct") with
        | none =>
          enterNew depth (.object target) arguments
            (if Value.same newTarget function then .object target else newTarget)
        | some trap =>
          let list ← newArrayOf arguments
          let result ← call trap (.object handler) #[.object target, list, newTarget]
          if result.isObject then return .result result else throwType "not an object"
      | _ => notConstructor
    | _ => notConstructor

def enterDepth : Nat := 1000

def superConstructor (frame : Frame) : Execution Value := do
  match frame.self with
  | .object ref =>
    match ← ref.parent with
    | some parent =>
      if ← isConstructor (.object parent) then return .object parent
      else throwType "not a constructor"
    | none => throwType "not a constructor"
  | _ => throwType "not a constructor"

def startFields (frame : Frame) (instance_ : Value) : Execution Unit := do
  match frame.self with
  | .object ref =>
    match ← kindOf ref with
    | .closure { fields := some fields, .. } => discard <| call (.object fields) instance_ #[]
    | _ => pure ()
  | _ => pure ()

/-- Reads a script from text; what cannot be read is thrown as a syntax error. -/
def readProgram (around : Grammar.Surroundings) (source : Units) : Execution Program := do
  match Program.parse around source.codes with
  | .ok program => return program
  | .error complaint =>
    if complaint == "stack overflow" then stackOverflow
    else throwValue (← makeError .syntaxError (Units.ofString complaint))

def compileProgram (program : Program) (ownership : Compile.Ownership) (around : List Visible) :
    Execution (Code × GlobalNames) := do
  match program.compile ownership around with
  | .ok result => return result
  | .error complaint => throwNew .syntaxError complaint

def programFrame (code : Code) (captured : Array Nat) (this self newTarget : Value) (home : Option Ref) :
    Frame :=
  let closure : Closure :=
    { code, captured, home, this, self, newTarget, fields := none }
  { Frame.start closure self this #[] newTarget false with home }

def enterProgram (source : Units) (strict : Bool) (whole : Bool) : Execution Frame := do
  let program ← readProgram (.outside strict) source
  let ownership : Compile.Ownership :=
    if whole then .realm else if program.strict then .script else .mixed
  let (code, names) ← compileProgram program ownership []
  declareNames names (!whole)
  return programFrame code #[] Intrinsic.global.value .undefined .undefined none

def enterEvaluation (frame : Frame) (scope : EvaluationScope) (source : Units) : Execution Frame := do
  let secrets := (scope.visible.map (·.name)).filter (·.startsWith "#")
  let program ← readProgram
    { strict := frame.code.strict, superMember := scope.superMember, newTarget := scope.newTarget
      field := scope.field, secrets } source
  let ownership : Compile.Ownership := if program.strict then .script else .mixed
  let (code, names) ← compileProgram program ownership scope.visible
  declareNames names true
  let captured := sharedCells frame (scope.visible.map (·.place)).toArray
  return programFrame code captured frame.this frame.self frame.newTarget frame.home

/-! ### Throwing -/

/-- Gives an error without a trace one, as it is thrown. -/
def traced (reason : Value) (machine : Machine) : Machine :=
  match reason with
  | .object ref =>
    match machine.heap[ref]? with
    | some { kind := .error, extensible := true, properties, .. } =>
      match properties.find? stackKey with
      | some _ => machine
      | none => { machine with
          heap := machine.heap.modify ref fun object =>
            { object with properties := object.properties.insert stackKey (.hidden (.text traceText)) } }
    | _ => machine
  | _ => machine

inductive Unwound where
  | handled (frame : Frame) (callers : List Frame) (left : Nat)
  /-- An asynchronous function turns it into a promise that is rejected. -/
  | rejected (callers : List Frame) (left : Nat)
  | out

/-- Finds the innermost handler; `left` counts the calls that end. -/
def unwind (reason : Value) : List Frame → Nat → Unwound
  | [], _ => .out
  | frame :: callers, left =>
    match frame.handlers with
    | handler :: handlers =>
      let stack := (frame.stack.shrink handler.height).push reason
      .handled { frame with pc := handler.target, stack, handlers, ending := false } callers left
    | [] =>
      if frame.code.async && !frame.code.generator then .rejected callers (left + 1)
      else unwind reason callers (left + 1)

/-- The handlers from the first one on that also sees a forced end. -/
def lastingHandlers : List Handler → List Handler
  | [] => []
  | handler :: rest => if handler.always then handler :: rest else lastingHandlers rest

def promiseOf (value : Value) : Execution Value := do
  let promise ← newPromise .pending
  settlePromise promise value
  return .object promise

/-! ### Generators -/

def makeGenerator (frame : Frame) : Execution Value := do
  let usual := if frame.code.async then Intrinsic.asyncGeneratorPrototype else .generatorPrototype
  let parent ← match frame.self with
    | .object _ => do
      match ← frame.self.get prototypeKey with
      | .object ref => pure ref
      | _ => pure usual.ref
    | _ => pure usual.ref
  let ref ← allocate (Object.create (.generator .finished) (some parent))
  setKind ref (.generator (.suspended { frame with pc := frame.pc + 1, owner := some ref } false))
  return .object ref

inductive Delegated where
  | gives (value : Value)
  | finished (value : Value)
  | ends (value : Value)

def delegate (iteration : Iteration) (how : Resumption) : Execution Delegated := do
  let settle (result : Value) (ended : Value → Delegated) : Execution Delegated := do
    match result with
    | .object _ =>
      let value ← result.get valueKey
      if (← result.get doneKey).truthy then return ended value else return .gives value
    | _ => throwType "iterator must return an object"
  match how with
  | .next value => settle (← call iteration.next iteration.iterator #[value]) .finished
  | .throw reason =>
    match ← iteration.iterator.getMethod (.ofString "throw") with
    | some function => settle (← call function iteration.iterator #[reason]) .finished
    | none =>
      iteration.close
      throwType "iterator does not have a throw method"
  | .result value =>
    match ← iteration.iterator.getMethod returnKey with
    | some function => settle (← call function iteration.iterator #[value]) .ends
    | none => return .ends value

/-- The names that a loop over an object goes through, those of parents included. -/
def loopKeys (object : Value) : Execution Value := do
  match object with
  | .undefined => newArrayOf #[]
  | .null => newArrayOf #[]
  | object =>
    let ref ← object.toObject
    let (found, _) ← repeating (some ref, ((#[] : Array Value), ([] : List Key))) fun (current, found, seen) => do
      match current with
      | none => return .inr (found, seen)
      | some ref =>
        let mut found := found
        let mut seen := seen
        for key in ← ref.keys do
          if !key.isSymbol && !seen.contains key then
            match ← ref.getOwn key with
            | some property =>
              seen := key :: seen
              if property.enumerable then found := found.push key.toValue
            | none => pure ()
        return .inl (← ref.parent, found, seen)
    newArrayOf found

/-! ### The loop -/

@[inline] def after (part : Dialogue (Outcome α)) (next : α → Machine → Dialogue (Outcome β))
    (failed : Value → Machine → Dialogue (Outcome β)) : Dialogue (Outcome β) :=
  match part with
  | .done (.value result machine) => next result machine
  | .done (.thrown reason machine) => failed reason machine
  | .done (.stopped stop machine) => .done (.stopped stop machine)
  | .ask question rest => .ask question fun answer =>
    (rest answer).bind fun
      | .value result machine => next result machine
      | .thrown reason machine => failed reason machine
      | .stopped stop machine => .done (.stopped stop machine)

inductive Turn where
  /-- The call on top, and the calls that wait for it. -/
  | next (frame : Frame) (callers : List Frame)
  | ended (exit : Exit)

@[inline] def goOn (frame : Frame) (callers : List Frame) : Execution Turn := fun machine =>
  .done (.value (.next frame callers) machine)

def throwAt (frames : List Frame) (reason : Value) : Execution Turn := fun machine =>
  let machine := traced reason machine
  match unwind reason frames 0 with
  | .handled frame callers left => goOn frame callers { machine with depth := machine.depth - left }
  | .rejected callers left =>
    let machine := { machine with depth := machine.depth - left }
    after (newPromise (.rejected reason) machine)
      (fun promise machine =>
        match callers with
        | caller :: callers => goOn (caller.push (.object promise)) callers machine
        | [] => .done (.value (.ended (.returned (.object promise))) machine))
      (fun reason machine => .done (.thrown reason machine))
  | .out => .done (.thrown reason machine)

def give (callers : List Frame) (value : Value) : Execution Turn := fun machine =>
  match callers with
  | caller :: callers => goOn (caller.push value) callers { machine with depth := machine.depth - 1 }
  | [] => .done (.value (.ended (.returned value)) machine)

def finishCall (frame : Frame) (callers : List Frame) (value : Value) : Execution Turn := fun machine =>
  if frame.code.async && !frame.code.generator then
    after (promiseOf value machine) (give callers) (throwAt (frame :: callers))
  else if frame.constructs then
    match value with
    | .object _ => give callers value machine
    | _ => give callers frame.this machine
  else give callers value machine

@[inline] def resumed (machine : Machine) (next : Frame → List Frame → Execution Turn) :
    Dialogue (Outcome Turn) :=
  match machine.waiting with
  | (frame :: callers) :: waiting => next frame callers { machine with waiting }
  | _ => .done (.stopped .exhausted machine)

/-- Begins a call; the values it takes are still on the stack. -/
def begin (frame : Frame) (callers : List Frame) (takes : Nat) (part : Execution Entered) : Execution Turn :=
  fun machine =>
    let waiting := (frame.drop takes :: callers) :: machine.waiting
    after (part { machine with waiting })
      (fun entered machine => resumed machine fun frame callers =>
        match entered with
        | .frame inner => goOn inner (frame :: callers)
        | .result value => goOn (frame.push value) callers)
      (fun reason machine => resumed machine fun frame callers => throwAt (frame :: callers) reason)

/-- Asks the host and measures memory where it is time to, then goes on. -/
@[inline] def counted (frame : Frame) (callers : List Frame) (machine : Machine) (next : Execution Turn) :
    Dialogue (Outcome Turn) :=
  if Memory.isDue machine then
    let (machine, full) := Memory.measure machine (frame :: callers)
    if full then
      after ((makeError .internalError (Units.ofString "out of memory")) machine)
        (throwAt (frame :: callers)) (throwAt (frame :: callers))
    else next machine
  else if machine.patience = 0 then
    .ask .interrupt fun stop =>
      if stop then .done (.stopped .interrupted { machine with patience })
      else next { machine with patience }
  else next { machine with patience := machine.patience - 1 }

/-- What is added to a text: plain values count as their texts. -/
def joinedAs (left right : Value) : Value :=
  match left, right with
  | .text _, .integer _ => .text right.plainText
  | .text _, .number _ => .text right.plainText
  | .text _, .boolean _ => .text right.plainText
  | .text _, .undefined => .text right.plainText
  | .text _, .null => .text right.plainText
  | _, _ => right

/-- Whether a sum joins the text that a variable holds to another one. While that is done, the variable
can be empty, so that the text need not be copied. -/
def isJoin (machine : Machine) (held left right : Value) : Bool :=
  match held, left, right with
  | .text held, .text a, .text b => sameText held a && canJoin machine a b
  | _, _, _ => false

def step (frame : Frame) (callers : List Frame) : Execution Turn := fun machine =>
  match frame.code.instructions[frame.pc]? with
  | none => finishCall frame callers .undefined machine
  | some instruction =>
    match instruction with
    | .push value => goOn (frame.push value) callers machine
    | .pop => goOn frame.pop callers machine
    | .dup => goOn (frame.push (frame.top 0)) callers machine
    | .dupTwo =>
      let a := frame.top 1
      let b := frame.top 0
      goOn { frame with pc := frame.pc + 1, stack := (frame.stack.push a).push b } callers machine
    | .swap =>
      let a := frame.top 1
      let b := frame.top 0
      goOn (frame.finish 2 (.two b a)) callers machine
    | .insert depth => goOn (frame.insertBelow depth) callers machine
    | .read place => goOn (frame.push (frame.readPlace machine place)) callers machine
    | .readChecked place name =>
      match frame.readPlace machine place with
      | .absent =>
        after ((notInitialized name : Execution Unit) machine) (fun _ machine => give callers .undefined machine)
          (throwAt (frame :: callers))
      | value => goOn (frame.push value) callers machine
    | .write place =>
      let value := frame.top 0
      match place with
      | .slot index => goOn (frame.pop.setSlot index value) callers machine
      | .cell index =>
        let cell := frame.cells.getD index 0
        goOn frame.pop callers
          { machine with cells := machine.cells.setIfInBounds cell value }
      | .captured index =>
        let cell := frame.captured.getD index 0
        goOn frame.pop callers
          { machine with cells := machine.cells.setIfInBounds cell value }
    | .writeChecked place name =>
      match frame.readPlace machine place with
      | .absent =>
        after ((notInitialized name : Execution Unit) machine) (fun _ machine => give callers .undefined machine)
          (throwAt (frame :: callers))
      | _ =>
        let value := frame.top 0
        match place with
        | .slot index => goOn (frame.pop.setSlot index value) callers machine
        | .cell index =>
          let cell := frame.cells.getD index 0
          goOn frame.pop callers
            { machine with cells := machine.cells.setIfInBounds cell value }
        | .captured index =>
          let cell := frame.captured.getD index 0
          goOn frame.pop callers
            { machine with cells := machine.cells.setIfInBounds cell value }
    | .fresh cell =>
      let id := machine.cells.size
      goOn { frame with pc := frame.pc + 1, cells := frame.cells.setIfInBounds cell id } callers
        { machine with cells := machine.cells.push .absent }
    | .renew cell =>
      let value := machine.cells.getD (frame.cells.getD cell 0) .undefined
      let id := machine.cells.size
      goOn { frame with pc := frame.pc + 1, cells := frame.cells.setIfInBounds cell id } callers
        { machine with cells := machine.cells.push value }
    | .this => goOn (frame.push frame.this) callers machine
    | .newTarget => goOn (frame.push frame.newTarget) callers machine
    | .self => goOn (frame.push frame.self) callers machine
    | .argument index => goOn (frame.push (frame.arguments.getD index .undefined)) callers machine
    | .jump target => goOn (frame.goTo target) callers machine
    | .jumpIf target =>
      if (frame.top 0).truthy then goOn (frame.pop.goTo target) callers machine
      else goOn frame.pop callers machine
    | .jumpUnless target =>
      if (frame.top 0).truthy then goOn frame.pop callers machine
      else goOn (frame.pop.goTo target) callers machine
    | .jumpPresent target =>
      if (frame.top 0).isNullish then goOn frame.pop callers machine
      else goOn (frame.pop.goTo target) callers machine
    | .jumpDefined target =>
      if (frame.top 0).isUndefined then goOn frame.pop callers machine
      else goOn (frame.pop.goTo target) callers machine
    | .jumpAbsent extra target =>
      if (frame.top 0).isNullish then
        goOn ((frame.finish (1 + extra) (.one .undefined)).goTo target) callers machine
      else goOn frame.advance callers machine
    | .again target => counted frame callers machine fun machine => goOn (frame.goTo target) callers machine
    | .guard target always =>
      let handler : Handler := { target, height := frame.stack.size, always }
      goOn { frame with pc := frame.pc + 1, handlers := handler :: frame.handlers } callers machine
    | .unguard =>
      goOn { frame with pc := frame.pc + 1, handlers := frame.handlers.tail } callers machine
    | .throw => throwAt (frame :: callers) (frame.top 0) machine
    | .rethrow =>
      let value := frame.top 0
      if frame.ending then
        match lastingHandlers frame.handlers with
        | handler :: handlers =>
          let stack := (frame.stack.shrink handler.height).push value
          goOn { frame with pc := handler.target, stack, handlers } callers machine
        | [] => finishCall frame callers value machine
      else throwAt (frame :: callers) value machine
    | .result => finishCall frame callers (frame.top 0) machine
    | .derivedResult place =>
      match frame.top 0 with
      | .object ref => give callers (.object ref) machine
      | .undefined =>
        match frame.readPlace machine place with
        | .absent =>
          after ((notInitialized "this" : Execution Unit) machine) (fun _ machine => give callers .undefined machine)
            (throwAt (frame :: callers))
        | this => give callers this machine
      | _ =>
        after ((throwType "derived class constructor must return an object or undefined" : Execution Unit) machine)
          (fun _ machine => give callers .undefined machine) (throwAt (frame :: callers))
    | .binary operator =>
      let b := frame.top 1
      let c := frame.top 0
      let quick : Option Value := match operator, b, c with
        | .add, .integer m, .integer n => some (.ofInt (m + n))
        | .subtract, .integer m, .integer n => some (.ofInt (m - n))
        | .less, .integer m, .integer n => some (.boolean (m < n))
        | .lessEqual, .integer m, .integer n => some (.boolean (m ≤ n))
        | .greater, .integer m, .integer n => some (.boolean (n < m))
        | .greaterEqual, .integer m, .integer n => some (.boolean (n ≤ m))
        | .same, b, c => some (.boolean (Value.same b c))
        | .notSame, b, c => some (.boolean (!Value.same b c))
        | _, _, _ => none
      match quick with
      | some value => goOn (frame.finish 2 (.one value)) callers machine
      | none =>
        let frame := frame.drop 2
        after (binaryOperation operator b c machine)
          (fun value machine => goOn (frame.push value) callers machine)
          (throwAt (frame :: callers))
    | .addTo place =>
      let left := frame.top 1
      let right := joinedAs left (frame.top 0)
      let held := frame.readPlace machine place
      let frame := frame.drop 2
      if isJoin machine held left right then
        let (frame, machine) := frame.clearPlace machine place
        after (addValues left right machine)
          (fun value machine => goOn (frame.push value) callers machine) (throwAt (frame :: callers))
      else
        after (addValues left right machine)
          (fun value machine => goOn (frame.push value) callers machine) (throwAt (frame :: callers))
    | .addToGlobal name =>
      let left := frame.top 1
      let right := joinedAs left (frame.top 0)
      let frame := frame.drop 2
      let machine := match machine.globals[name]? with
        | some { cell, constant := false } =>
          if isJoin machine (machine.cells.getD cell .undefined) left right then
            { machine with cells := machine.cells.setIfInBounds cell .undefined }
          else machine
        | _ => machine
      after (addValues left right machine)
        (fun value machine => goOn (frame.push value) callers machine) (throwAt (frame :: callers))
    | .call count =>
      let size := frame.stack.size
      let arguments := frame.stack.extract (size - count) size
      let function := frame.stack.getD (size - count - 1) .undefined
      let this := frame.stack.getD (size - count - 2) .undefined
      counted frame callers machine fun machine => begin frame callers (count + 2) (enter enterDepth function this arguments) machine
    | .callAll =>
      let function := frame.top 1
      let this := frame.top 2
      let items := frame.top 0
      counted frame callers machine fun machine =>
        begin frame callers 3 (do enter enterDepth function this (← itemsOf items)) machine
    | .construct count =>
      let size := frame.stack.size
      let arguments := frame.stack.extract (size - count) size
      let function := frame.stack.getD (size - count - 1) .undefined
      counted frame callers machine fun machine => begin frame callers (count + 1) (enterNew enterDepth function arguments function) machine
    | .constructAll =>
      let function := frame.top 1
      let items := frame.top 0
      counted frame callers machine fun machine =>
        begin frame callers 2 (do enterNew enterDepth function (← itemsOf items) function) machine
    | .superCall count =>
      let size := frame.stack.size
      let arguments := frame.stack.extract (size - count) size
      begin frame callers count (do
        let parent ← superConstructor frame
        enterNew enterDepth parent arguments frame.newTarget) machine
    | .superCallAll =>
      let items := frame.top 0
      begin frame callers 1 (do
        let parent ← superConstructor frame
        enterNew enterDepth parent (← itemsOf items) frame.newTarget) machine
    | .superForward =>
      begin frame callers 0 (do
        let parent ← superConstructor frame
        enterNew enterDepth parent frame.arguments frame.newTarget) machine
    | .bindThis place =>
      match frame.readPlace machine place with
      | .absent =>
        let value := frame.top 0
        match place with
        | .slot index => goOn (frame.pop.setSlot index value) callers machine
        | .cell index =>
          let cell := frame.cells.getD index 0
          goOn frame.pop callers
            { machine with cells := machine.cells.setIfInBounds cell value }
        | .captured index =>
          let cell := frame.captured.getD index 0
          goOn frame.pop callers
            { machine with cells := machine.cells.setIfInBounds cell value }
      | _ =>
        after ((throwNew .referenceError "'this' can be initialized only once" : Execution Unit) machine)
          (fun _ machine => give callers .undefined machine) (throwAt (frame :: callers))
    | .startFields =>
      after (startFields frame (frame.top 0) machine)
        (fun _ machine => goOn frame.pop callers machine) (throwAt (frame :: callers))
    | .evaluate count scope =>
      let size := frame.stack.size
      let arguments := frame.stack.extract (size - count) size
      let function := frame.stack.getD (size - count - 1) .undefined
      let this := frame.stack.getD (size - count - 2) .undefined
      if Value.same function Intrinsic.evalFunction.value then
        match arguments.toList with
        | .text source :: _ =>
          begin frame callers (count + 2) (do
            descend
            return .frame (← enterEvaluation frame (frame.code.scopes.getD scope default) source)) machine
        | other :: _ => goOn (frame.finish (count + 2) (.one other)) callers machine
        | [] => goOn (frame.finish (count + 2) (.one .undefined)) callers machine
      else begin frame callers (count + 2) (enter enterDepth function this arguments) machine
    | .iterate slot waits =>
      after (iterate (frame.top 0) waits machine)
        (fun iteration machine =>
          let frame := ((frame.pop.setSlot slot iteration.iterator).setSlot (slot + 1) iteration.next).setSlot
            (slot + 2) (.boolean false)
          goOn frame callers machine)
        (throwAt (frame :: callers))
    | .step slot target =>
      after ((frame.iterationAt slot).step? machine)
        (fun found machine => match found with
          | some value => goOn (frame.push value) callers machine
          | none => goOn ((frame.markDone slot).goTo target) callers machine)
        (fun reason machine => throwAt (frame.markDone slot :: callers) reason machine)
    | .takeOne slot =>
      if frame.isDone slot then goOn (frame.push .undefined) callers machine
      else
        after ((frame.iterationAt slot).step? machine)
          (fun found machine => match found with
            | some value => goOn (frame.push value) callers machine
            | none => goOn ((frame.markDone slot).push .undefined) callers machine)
          (fun reason machine => throwAt (frame.markDone slot :: callers) reason machine)
    | .takeRest slot =>
      let iteration := frame.iterationAt slot
      let done := frame.isDone slot
      after ((do
          let items ← if done then pure #[]
            else repeating (#[] : Array Value) fun items => do
              match ← iteration.step? with
              | some value => return .inl (items.push value)
              | none => return .inr items
          newArrayOf items : Execution Value) machine)
        (fun items machine => goOn ((frame.markDone slot).push items) callers machine)
        (fun reason machine => throwAt (frame.markDone slot :: callers) reason machine)
    | .close slot =>
      if frame.isDone slot then goOn frame.advance callers machine
      else
        after ((frame.iterationAt slot).close machine)
          (fun _ machine => goOn (frame.advance.markDone slot) callers machine)
          (fun reason machine => throwAt (frame.markDone slot :: callers) reason machine)
    | .closeQuietly slot =>
      if frame.isDone slot then goOn frame.advance callers machine
      else
        let closing := if frame.ending then (frame.iterationAt slot).close
          else (frame.iterationAt slot).closeQuietly
        after (closing machine)
          (fun _ machine => goOn (frame.advance.markDone slot) callers machine)
          (fun reason machine => throwAt (frame.markDone slot :: callers) reason machine)
    | .keys slot =>
      let object := frame.top 0
      after (loopKeys object machine)
        (fun keys machine =>
          goOn (((frame.pop.setSlot slot keys).setSlot (slot + 1) (.integer 0)).setSlot (slot + 2) object)
            callers machine)
        (throwAt (frame :: callers))
    | .nextKey slot target =>
      let keys := frame.slots.getD slot .undefined
      let position := frame.slots.getD (slot + 1) .undefined
      let object := frame.slots.getD (slot + 2) .undefined
      after ((do
          let index ← position.toLength
          let length ← lengthOf keys
          repeating index fun index => do
            if length ≤ index then return .inr none
            else
              let key ← keys.get (.index index)
              let present ← match object with
                | .object ref => ref.has (← key.toKey)
                | _ => pure true
              if present then return .inr (some (index, key)) else return .inl (index + 1) :
          Execution (Option (Nat × Value))) machine)
        (fun found machine => match found with
          | some (index, key) =>
            goOn ((frame.setSlot (slot + 1) (.ofNat (index + 1))).push key) callers machine
          | none => goOn (frame.goTo target) callers machine)
        (throwAt (frame :: callers))
    | .suspend =>
      after (makeGenerator frame machine) (give callers) (throwAt (frame :: callers))
    | .yield =>
      if frame.code.async then give callers .undefined machine
      else .done (.value (.ended (.yielded (frame.top 0) frame.pop)) machine)
    | .yieldAll slot =>
      let how := match frame.resumption with
        | .next _ => Resumption.next (frame.top 0)
        | .throw _ => .throw (frame.top 0)
        | .result _ => .result (frame.top 0)
      after (delegate (frame.iterationAt slot) how machine)
        (fun found machine => match found with
          | .gives value =>
            let frame := { frame with stack := frame.stack.pop, resumption := .next .undefined }
            .done (.value (.ended (.yielded value frame)) machine)
          | .finished value => goOn (frame.finish 1 (.one value)) callers machine
          | .ends value =>
            match lastingHandlers frame.handlers with
            | handler :: handlers =>
              let stack := (frame.stack.shrink handler.height).push value
              goOn { frame with pc := handler.target, stack, handlers, ending := true } callers machine
            | [] => finishCall frame callers value machine)
        (fun reason machine =>
          throwAt ({ frame with resumption := .next .undefined } :: callers) reason machine)
    | .await =>
      after (awaitValue (frame.top 0) machine)
        (fun _ machine =>
          if frame.code.generator then give callers .undefined machine
          else after (newPromise .pending machine) (fun promise machine => give callers (.object promise) machine)
            (throwAt (frame :: callers)))
        (throwAt (frame :: callers))
    | other =>
      let takes := other.takes
      let result := perform other frame (frame.top 2) (frame.top 1) (frame.top 0) machine
      after result (fun pushed machine => goOn (frame.finish takes pushed) callers machine)
        (throwAt (frame :: callers))

def loop : Nat → Frame → List Frame → Machine → Dialogue (Outcome Exit)
  | 0, _, _, machine => .done (.stopped .exhausted machine)
  | steps + 1, frame, callers, machine =>
    match step frame callers machine with
    | .done (.value (.next frame callers) machine) => loop steps frame callers machine
    | .done (.value (.ended exit) machine) => .done (.value exit machine)
    | .done (.thrown reason machine) => .done (.thrown reason machine)
    | .done (.stopped stop machine) => .done (.stopped stop machine)
    | .ask question rest => .ask question fun answer =>
      (rest answer).bind fun
        | .value (.next frame callers) machine => loop steps frame callers machine
        | .value (.ended exit) machine => .done (.value exit machine)
        | .thrown reason machine => .done (.thrown reason machine)
        | .stopped stop machine => .done (.stopped stop machine)

def run (frame : Frame) : Execution Exit := fun machine =>
  let depth := machine.depth
  match loop plenty frame [] machine with
  | .done (.value exit machine) => .done (.value exit { machine with depth })
  | .done (.thrown reason machine) => .done (.thrown reason { machine with depth })
  | .done (.stopped stop machine) => .done (.stopped stop { machine with depth })
  | .ask question rest => .ask question fun answer =>
    (rest answer).bind fun
      | .value exit machine => .done (.value exit { machine with depth })
      | .thrown reason machine => .done (.thrown reason { machine with depth })
      | .stopped stop machine => .done (.stopped stop { machine with depth })

def finishEntered (entered : Entered) : Execution Value := do
  match entered with
  | .result value => return value
  | .frame frame =>
    match ← run frame with
    | .returned value => return value
    | .yielded value _ => return value

def callValue (function this : Value) (arguments : Array Value) : Execution Value := do
  let depth := (← get).depth
  let value ← finishEntered (← enter enterDepth function this arguments)
  modify fun machine => { machine with depth }
  return value

def constructValue (function : Value) (arguments : Array Value) (newTarget : Value) : Execution Value := do
  let depth := (← get).depth
  let value ← finishEntered (← enterNew enterDepth function arguments newTarget)
  modify fun machine => { machine with depth }
  return value

def isDelegating (frame : Frame) : Bool :=
  match frame.code.instructions[frame.pc]? with
  | some (.yieldAll _) => true
  | _ => false

def resumeGenerator (generator : Ref) (how : Resumption) : Execution (Value × Bool) := do
  let ended : Execution (Value × Bool) :=
    match how with
    | .next _ => return (.undefined, true)
    | .throw reason => throwValue reason
    | .result value => return (value, true)
  let goOn (frame : Frame) : Execution (Value × Bool) := do
    setKind generator (.generator .running)
    match ← attempt (run frame) with
    | .value (.yielded value frame) =>
      setKind generator (.generator (.suspended frame true))
      return (value, false)
    | .value (.returned value) =>
      setKind generator (.generator .finished)
      return (value, true)
    | .thrown reason =>
      setKind generator (.generator .finished)
      throwValue reason
    | .stopped reason =>
      setKind generator (.generator .finished)
      stop reason
  match ← kindOf generator with
  | .generator .running => throwType "cannot invoke a running generator"
  | .generator .finished => ended
  | .generator (.suspended frame started) =>
    match how with
    | .next value =>
      if started then goOn (if isDelegating frame then
          { frame with stack := frame.stack.push value, resumption := .next .undefined }
        else { frame with stack := frame.stack.push value })
      else goOn frame
    | .throw reason =>
      if !started then
        setKind generator (.generator .finished)
        throwValue reason
      else if isDelegating frame then
        goOn { frame with stack := frame.stack.push reason, resumption := .throw .undefined }
      else match unwind reason [frame] 0 with
        | .handled frame _ _ => goOn frame
        | _ =>
          setKind generator (.generator .finished)
          throwValue reason
    | .result value =>
      if !started then
        setKind generator (.generator .finished)
        return (value, true)
      else if isDelegating frame then
        goOn { frame with stack := frame.stack.push value, resumption := .result .undefined }
      else match lastingHandlers frame.handlers with
        | handler :: handlers =>
          let stack := (frame.stack.shrink handler.height).push value
          goOn { frame with pc := handler.target, stack, handlers, ending := true }
        | [] =>
          setKind generator (.generator .finished)
          return (value, true)
  | _ => throwType "not a generator"

/-- Evaluates a script outside all functions; a whole one may declare names for the realm. -/
def evaluateProgram (source : Units) (strict whole : Bool) : Execution Value := do
  let frame ← enterProgram source strict whole
  match ← run frame with
  | .returned value => return value
  | .yielded value _ => return value

/-- An interpreter in which functions of the library may call so deeply. -/
@[reducible] def engine (methods : Array Method) : Nat → Engine
  | 0 =>
    { call := fun _ _ _ => stackOverflow, construct := fun _ _ _ => stackOverflow
      resume := fun _ _ => stackOverflow, evaluate := fun _ => stackOverflow }
  | depth + 1 =>
    { call := fun function this arguments machine =>
        @callValue (engine methods depth) ⟨methods⟩ function this arguments machine
      construct := fun function arguments newTarget machine =>
        @constructValue (engine methods depth) ⟨methods⟩ function arguments newTarget machine
      resume := fun generator how machine =>
        @resumeGenerator (engine methods depth) ⟨methods⟩ generator how machine
      evaluate := fun source machine =>
        @evaluateProgram (engine methods depth) ⟨methods⟩ source false false machine }

end ScriptSandbox.Script
