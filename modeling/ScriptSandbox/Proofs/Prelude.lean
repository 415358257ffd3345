import ScriptSandbox.Proofs.Crossing
import ScriptSandbox.Proofs.Fetching
import ScriptSandbox.Proofs.Turns

/-!
What scripts know as `fetch`. The prelude makes it, and its code is known: it spreads its arguments into a call of the
native function and gives the response that comes back two functions more, `text` and `json`. What the native function
throws it throws as well.
-/

namespace ScriptSandbox

open Script Script.Execution

namespace Script

/-! ### Its code -/

/-- The code of a function without functions in it. A function also keeps the text that it was written as. -/
def plainCode (name : String) (source : Units) (slots : Nat) (instructions : Array Instruction) : Code :=
  { name, kind := .ordinary, generator := false, async := false, strict := true, arity := 0, source, slots, cells := 0
    instructions, children := #[], captures := #[], sites := #[], scopes := #[], isClass := false }

def textCode (source : Units) : Code :=
  plainCode "text" source 1
    #[.this, .write (.slot 0), .read (.slot 0), .getField (.ofString "body"), .result, .push .undefined, .result]

def jsonCode (source : Units) : Code :=
  plainCode "json" source 1
    #[.this, .write (.slot 0), .readGlobal "JSON" (.ofString "JSON"), .dup, .getField (.ofString "parse"),
      .read (.slot 0), .getField (.ofString "body"), .call 1, .result, .push .undefined, .result]

def fetchCode (source text json : Units) : Code :=
  { plainCode "fetch" source 2
      #[.argumentsFrom 0, .write (.slot 0), .push .absent, .write (.slot 1), .push .undefined,
        .readChecked (.captured 0) "nativeFetch", .newArray, .read (.slot 0), .appendAll, .callAll, .write (.slot 1),
        .readChecked (.slot 1) "response", .closure 0, .setField (.ofString "text"), .pop,
        .readChecked (.slot 1) "response", .closure 1, .setField (.ofString "json"), .pop,
        .readChecked (.slot 1) "response", .result, .push .undefined, .result] with
    captures := #[.cell 0], children := #[textCode text, jsonCode json] }

def Instruction.alike : Instruction → Instruction → Bool
  | .argumentsFrom index, .argumentsFrom other => index == other
  | .push .absent, .push .absent => true
  | .push .undefined, .push .undefined => true
  | .read place, .read other => place == other
  | .readChecked place name, .readChecked other name' => place == other && name == name'
  | .write place, .write other => place == other
  | .readGlobal name key, .readGlobal name' key' => name == name' && key == key'
  | .getField key, .getField other => key == other
  | .setField key, .setField other => key == other
  | .closure child, .closure other => child == other
  | .call arguments, .call other => arguments == other
  | .this, .this => true
  | .dup, .dup => true
  | .pop, .pop => true
  | .newArray, .newArray => true
  | .appendAll, .appendAll => true
  | .callAll, .callAll => true
  | .result, .result => true
  | _, _ => false

theorem Instruction.eq_of_alike (instruction other : Instruction) (same : instruction.alike other = true) :
    instruction = other := by
  unfold alike at same
  split at same <;> simp_all

namespace Code

def flags (code : Code) : List Bool := [code.generator, code.async, code.strict, code.isClass]

def counts (code : Code) : List Nat := [code.arity, code.slots, code.cells, code.children.size]

/-- Whether two codes are the same, except for what they were written as and what functions are in them. Those with
templates or evaluations never are. -/
def alike (code other : Code) : Bool :=
  code.name == other.name && code.kind == other.kind && code.captures == other.captures && code.flags == other.flags &&
    code.counts == other.counts && code.instructions.isEqv other.instructions Instruction.alike &&
    (code.sites.isEmpty && other.sites.isEmpty) && (code.scopes.isEmpty && other.scopes.isEmpty)

theorem eq_of_alike (code other : Code) (same : code.alike other = true) :
    code.children.size = other.children.size ∧
      code = { other with source := code.source, children := code.children } := by
  simp only [alike, Bool.and_eq_true, beq_iff_eq, Array.isEmpty_iff] at same
  obtain ⟨⟨⟨⟨⟨⟨⟨name, kind⟩, captures⟩, flags⟩, counts⟩, instructions⟩, sites⟩, scopes⟩ := same
  obtain ⟨sizes, each⟩ := Array.isEqv_iff_rel.1 instructions
  have instructions : code.instructions = other.instructions :=
    Array.ext sizes fun i h _ => Instruction.eq_of_alike _ _ (each i h)
  have sites : code.sites = other.sites := sites.1.trans sites.2.symm
  have scopes : code.scopes = other.scopes := scopes.1.trans scopes.2.symm
  simp only [Code.flags, Code.counts, List.cons.injEq, and_true] at flags counts
  refine ⟨counts.2.2.2, ?_⟩
  cases code
  simp_all only

theorem eq_of_alike_plain (code : Code) (name : String) (slots : Nat) (instructions : Array Instruction)
    (same : code.alike (plainCode name #[] slots instructions) = true) :
    code = plainCode name code.source slots instructions := by
  obtain ⟨size, equal⟩ := code.eq_of_alike _ same
  rwa [Array.eq_empty_of_size_eq_zero size] at equal

end Code

def Code.makesFetch (main : Code) : Bool :=
  let own := (main.children.getD 0 default).children.getD 0 default
  own.alike (fetchCode #[] #[] #[]) && (own.children.getD 0 default).alike (textCode #[]) &&
    (own.children.getD 1 default).alike (jsonCode #[])

theorem Code.eq_fetchCode (main : Code) (makes : main.makesFetch = true) : ∃ source text json,
    (main.children.getD 0 default).children.getD 0 default = fetchCode source text json := by
  unfold makesFetch at makes
  generalize (main.children.getD 0 default).children.getD 0 default = own at makes ⊢
  rw [Bool.and_eq_true, Bool.and_eq_true] at makes
  obtain ⟨⟨outer, text⟩, json⟩ := makes
  have text := Code.eq_of_alike_plain _ _ _ _ text
  have json := Code.eq_of_alike_plain _ _ _ _ json
  obtain ⟨two, outer⟩ := own.eq_of_alike _ outer
  refine ⟨own.source, (own.children.getD 0 default).source, (own.children.getD 1 default).source, ?_⟩
  have children : own.children = #[own.children.getD 0 default, own.children.getD 1 default] := by
    refine Array.ext two fun i within _ => ?_
    have two : own.children.size = 2 := two
    obtain rfl | rfl : i = 0 ∨ i = 1 := by omega
    all_goals simp [Array.getD, two]
  rw [text, json] at children
  rw [children] at outer
  exact outer

def compilesTo (codes : Array Nat) (holds : Code → Bool) : Bool :=
  match Program.parse (.outside true) codes with
  | .error _ => false
  | .ok program =>
    match program.compile .realm [] with
    | .error _ => false
    | .ok (main, _) => holds main

theorem exists_of_compilesTo (codes : Array Nat) (holds : Code → Bool) (compiles : compilesTo codes holds = true) :
    ∃ program main names, Program.parse (.outside true) codes = .ok program ∧
      program.compile .realm [] = .ok (main, names) ∧ holds main = true := by
  unfold compilesTo at compiles
  cases read : Program.parse (.outside true) codes with
  | error complaint =>
    rw [read] at compiles
    cases compiles
  | ok program =>
    rw [read] at compiles
    dsimp only at compiles
    cases compiled : program.compile .realm [] with
    | error complaint =>
      rw [compiled] at compiles
      cases compiles
    | ok result =>
      rw [compiled] at compiles
      exact ⟨program, result.1, result.2, rfl, compiled, compiles⟩

end Script

namespace Primitives

theorem codes_fetchPrelude : (Units.ofString fetchPrelude).codes =
    (preludeLines.flatMap fun line => line.toList.map Char.toNat).toArray := by
  refine Array.ext' ?_
  rw [Units.codes_ofString, fetchPrelude, String.toList_join, List.map_flatMap]

theorem fetchPrelude_makesFetch : compilesTo (Units.ofString fetchPrelude).codes Code.makesFetch = true := by
  rw [codes_fetchPrelude]
  decide +kernel

/-- The prelude can be read and compiled, and its code holds that of `fetch`. -/
theorem fetchPrelude_compiles : ∃ program main names source text json,
    Program.parse (.outside true) (Units.ofString fetchPrelude).codes = .ok program ∧
      program.compile .realm [] = .ok (main, names) ∧
      (main.children.getD 0 default).children.getD 0 default = fetchCode source text json := by
  obtain ⟨program, main, names, read, compiled, makes⟩ := exists_of_compilesTo _ _ fetchPrelude_makesFetch
  obtain ⟨source, text, json, own⟩ := main.eq_fetchCode makes
  exact ⟨program, main, names, source, text, json, read, compiled, own⟩

end Primitives

/-! ### Calls of it -/

namespace Script

def plainClosure (code : Code) : Closure :=
  { code, captured := #[], home := none, this := .undefined, self := .undefined, newTarget := .undefined, fields := none }

theorem closureOf_plainCode (frame : Frame) (name : String) (source : Units) (slots : Nat)
    (instructions : Array Instruction) :
    closureOf frame (plainCode name source slots instructions) =
      plainClosure (plainCode name source slots instructions) := by
  have shared : sharedCells frame #[] = #[] := Array.map_empty
  unfold closureOf
  change Closure.mk _ (sharedCells frame #[]) _ _ _ _ _ = _
  rw [shared]
  rfl

/-- A call of `fetch`, whose first captured cell holds the native function. -/
structure FetchCall where
  source : Units
  text : Units
  json : Units
  captured : Array Nat
  self : Value
  this : Value
  arguments : Array Value

namespace FetchCall

def frame (call : FetchCall) : Frame :=
  .start { plainClosure (fetchCode call.source call.text call.json) with captured := call.captured } call.self call.this
    call.arguments .undefined false

def stage (call : FetchCall) (pc : Nat) (stack slots : Array Value) : Frame := { call.frame with pc, stack, slots }

def calling (call : FetchCall) (native : Ref) (gathered list : Value) : Frame :=
  call.stage 9 #[.undefined, .object native, list] #[gathered, .absent]

def suspended (call : FetchCall) (gathered : Value) : Frame := call.stage 9 #[] #[gathered, .absent]

end FetchCall

theorem cells_newArrayOf (clock : Clock) (elements : Array Value) (before after : World) (array : Value)
    (effects : List Host.Effect) (made : Runs clock (newArrayOf elements) before (.value array) after effects) :
    after.machine.cells = before.machine.cells := by
  obtain ⟨charged, -⟩ | ⟨full, -⟩ := charge_cases (16 * elements.size) before.machine
  · have ended : newArrayOf elements before.machine = _ :=
      (bind_value (charge (16 * elements.size)) _ before.machine _ () charged).trans rfl
    obtain ⟨-, rfl, -⟩ := made.unique clock _ before after _ _ _ _ _ (runs_done clock _ before _ _ ended)
    rfl
  · have failed : newArrayOf elements before.machine = _ :=
      bind_thrown (charge (16 * elements.size)) _ before.machine _ _ full
    have ends := made.ends
    rw [failed] at ends
    cases ends

section

variable [Engine]

/-- The arguments of a call as an array, and all values of this array as another one. -/
def spreading (arguments : Array Value) : Execution (Value × Value) := do
  let gathered ← newArrayOf arguments
  let list ← newArrayOf #[]
  for value in ← valuesOf gathered do
    appendTo list value
  return (gathered, list)

def dressing (text json : Units) (response : Value) : Execution Unit := do
  let function ← makeClosure (plainClosure (textCode text))
  response.put (.ofString "text") (.object function) true
  let function ← makeClosure (plainClosure (jsonCode json))
  response.put (.ofString "json") (.object function) true

end

section

variable [Engine] [Catalog] (clock : Clock) (callers : List Frame)

theorem step_readChecked (frame : Frame) (machine : Machine) (place : Place) (name : String) (value : Value)
    (there : frame.code.instructions[frame.pc]? = some (.readChecked place name))
    (reads : frame.readPlace machine place = value) (proper : value ≠ .absent) :
    step frame callers machine = goOn (frame.push value) callers machine := by
  unfold step
  rw [there]
  dsimp only
  rw [reads]
  cases value <;> first | rfl | exact absurd rfl proper

variable (call : FetchCall) (native : Ref) (gathered list : Value)

theorem goes_spreading (count : Nat) (before spread last : World) (ending : Ending Turn)
    (effects effects' : List Host.Effect)
    (known : before.machine.cells.getD (call.captured.getD 0 0) .undefined = .object native)
    (spreads : Runs clock (spreading call.arguments) before (.value (gathered, list)) spread effects)
    (rest : Goes clock callers count (call.calling native gathered list) spread ending last effects') :
    Goes clock callers (count + 9) call.frame before ending last (effects ++ effects') := by
  unfold spreading at spreads
  obtain ⟨gathered', first, effects₁, later₁, gathers, rest₁, rfl⟩ := spreads.of_bind
  obtain ⟨list', second, effects₂, later₂, lists, rest₂, rfl⟩ := rest₁.of_bind
  obtain ⟨values, third, effects₃, later₃, reads, rest₃, rfl⟩ := rest₂.of_bind
  obtain ⟨⟨⟩, fourth, effects₄, later₄, adds, rest₄, rfl⟩ := rest₃.of_bind
  obtain ⟨same, rfl, rfl⟩ := rest₄.unique clock _ fourth spread fourth _ _ _ _ (runs_pure clock _ fourth)
  cases same
  have kept : first.machine.cells.getD (call.captured.getD 0 0) .undefined = .object native := by
    rw [cells_newArrayOf clock call.arguments before first gathered effects₁ gathers]
    exact known
  rw [List.append_nil, List.append_assoc, List.append_assoc]
  refine .pushes clock callers (count + 8) (call.stage 0 #[] #[.undefined, .undefined]) before first last ending
    effects₁ _ 0 (newArrayOf (call.arguments.extract 0 call.arguments.size)) (fun array => array) gathered
    (fun _ => rfl) ?_ ?_
  · rw [Array.extract_size]
    exact gathers
  refine .quietly clock callers (count + 7) (call.stage 1 #[gathered] #[.undefined, .undefined]) first last ending _
    (call.stage 2 #[] #[gathered, .undefined]) rfl ?_
  refine .quietly clock callers (count + 6) _ first last ending _ (call.stage 3 #[.absent] #[gathered, .undefined])
    rfl ?_
  refine .quietly clock callers (count + 5) _ first last ending _ (call.stage 4 #[] #[gathered, .absent]) rfl ?_
  refine .quietly clock callers (count + 4) _ first last ending _ (call.stage 5 #[.undefined] #[gathered, .absent])
    rfl ?_
  refine .quietly clock callers (count + 3) _ first last ending _
    (call.stage 6 #[.undefined, .object native] #[gathered, .absent])
    (step_readChecked callers _ first.machine (.captured 0) "nativeFetch" (.object native) rfl kept nofun) ?_
  refine .pushes clock callers (count + 2) _ first second last ending effects₂ _ 0 (newArrayOf #[])
    (fun array => array) list (fun _ => rfl) lists ?_
  let adding := call.stage 8 #[.undefined, .object native, list, gathered] #[gathered, .absent]
  refine .quietly clock callers (count + 1) (call.stage 7 #[.undefined, .object native, list] #[gathered, .absent])
    second last ending _ adding rfl ?_
  refine .performs clock callers count adding second spread last ending _ effects' 2
    (perform .appendAll adding (adding.top 2) (adding.top 1) (adding.top 0)) (.one list) (fun _ => rfl) ?_ rest
  exact runs_bind clock (valuesOf gathered) _ second third spread values _ effects₃ effects₄ reads
    (runs_bind_pure clock _ _ third spread _ _ effects₄ adds rfl)

/-! ### The native function -/

def handing (native : Ref) (list : Value) : Execution Entered := do
  enter enterDepth (.object native) .undefined (← itemsOf list)

theorem step_calling (machine : Machine) : step (call.calling native gathered list) callers machine =
    after (pause (call.calling native gathered list :: callers) machine)
      (fun _ => begin (call.calling native gathered list) callers 3 (handing native list))
      (throwAt (call.calling native gathered list :: callers)) :=
  counted_eq (call.calling native gathered list) callers machine
    (begin (call.calling native gathered list) callers 3 (handing native list))

theorem runs_handing (id : Nat) (object : Object) (constructs : Bool) (data items : Array Value)
    (before ready after : World) (ending : Ending Value) (effects effects' : List Host.Effect)
    (named : Catalog.methods[id]? = some Primitives.nativeFetch)
    (hands : Runs clock (itemsOf list) before (.value items) ready effects)
    (there : ready.machine.heap[native]? = some object) (kind : object.kind = .native id constructs data)
    (runs : Runs clock (Primitives.request items.toList) ready ending after effects') :
    Runs clock (handing native list) before (ending.map .result) after (effects ++ effects') := by
  have looked := runs_done clock _ ready _ ready.machine (kindOf_of_there native object ready.machine there)
  have entered :
      Runs clock (enter enterDepth (.object native) .undefined items) ready (ending.map .result) after effects' := by
    rw [kind] at looked
    refine runs_bind clock (kindOf native) _ ready ready after _ _ [] effects' looked ?_
    refine runs_map clock (runNative id _) Entered.result ready after ending effects' ?_
    unfold runNative
    rw [named]
    exact runs
  exact runs_bind clock (itemsOf list) _ before ready after items _ effects effects' hands entered

theorem goes_dressing (response : Value) (proper : response ≠ .absent) (before dressed last : World)
    (ending : Ending Turn) (effects effects' : List Host.Effect)
    (dresses : Runs clock (dressing call.text call.json response) before (.value ()) dressed effects)
    (gives : Runs clock (give callers response) dressed ending last effects') :
    Goes clock callers 11 ((call.suspended gathered).push response) before ending last (effects ++ effects') := by
  unfold dressing at dresses
  obtain ⟨text, first, effects₁, later₁, makes, rest₁, rfl⟩ := dresses.of_bind
  obtain ⟨⟨⟩, second, effects₂, later₂, puts, rest₂, rfl⟩ := rest₁.of_bind
  obtain ⟨json, third, effects₃, effects₄, makes', puts', rfl⟩ := rest₂.of_bind
  rw [textCode, ← closureOf_plainCode (call.stage 12 #[response] #[gathered, response])] at makes
  rw [jsonCode, ← closureOf_plainCode (call.stage 16 #[response] #[gathered, response])] at makes'
  have reads (frame : Frame) (machine : Machine) (pc : Nat) (stack : Array Value)
      (same : frame = call.stage pc stack #[gathered, response])
      (there : frame.code.instructions[frame.pc]? = some (.readChecked (.slot 1) "response")) :
      step frame callers machine = goOn (frame.push response) callers machine :=
    step_readChecked callers frame machine (.slot 1) "response" response there (by rw [same]; rfl) proper
  rw [List.append_assoc, List.append_assoc, List.append_assoc]
  refine .quietly clock callers 10 (call.stage 10 #[response] #[gathered, .absent]) before last ending _
    (call.stage 11 #[] #[gathered, response]) rfl ?_
  refine .quietly clock callers 9 _ before last ending _ (call.stage 12 #[response] #[gathered, response])
    (reads _ _ 11 #[] rfl rfl) ?_
  refine .pushes clock callers 8 _ before first last ending effects₁ _ 0
    (makeClosure (closureOf (call.stage 12 #[response] #[gathered, response]) (textCode call.text))) Value.object text
    (fun _ => rfl) makes ?_
  refine .pushes clock callers 7 (call.stage 13 #[response, .object text] #[gathered, response]) first second last
    ending effects₂ _ 2 (response.put (.ofString "text") (.object text) true) (fun _ => .object text) () (fun _ => rfl) puts ?_
  refine .quietly clock callers 6 (call.stage 14 #[.object text] #[gathered, response]) second last ending _
    (call.stage 15 #[] #[gathered, response]) rfl ?_
  refine .quietly clock callers 5 _ second last ending _ (call.stage 16 #[response] #[gathered, response])
    (reads _ _ 15 #[] rfl rfl) ?_
  refine .pushes clock callers 4 _ second third last ending effects₃ _ 0
    (makeClosure (closureOf (call.stage 16 #[response] #[gathered, response]) (jsonCode call.json))) Value.object json
    (fun _ => rfl) makes' ?_
  refine .pushes clock callers 3 (call.stage 17 #[response, .object json] #[gathered, response]) third dressed last
    ending effects₄ _ 2 (response.put (.ofString "json") (.object json) true) (fun _ => .object json) () (fun _ => rfl) puts' ?_
  refine .quietly clock callers 2 (call.stage 18 #[.object json] #[gathered, response]) dressed last ending _
    (call.stage 19 #[] #[gathered, response]) rfl ?_
  refine .quietly clock callers 1 _ dressed last ending _ (call.stage 20 #[response] #[gathered, response])
    (reads _ _ 19 #[] rfl rfl) ?_
  exact .last _ dressed last ending effects' gives

/-- The `text` of a response gives the body of what it is called on, which is read then. -/
theorem goes_text (source : Units) (self this found : Value) (arguments : Array Value) (before between last : World)
    (ending : Ending Turn) (effects effects' : List Host.Effect)
    (reads : Runs clock (this.get (.ofString "body")) before (.value found) between effects)
    (gives : Runs clock (give callers found) between ending last effects') :
    Goes clock callers 5 (.start (plainClosure (textCode source)) self this arguments .undefined false) before ending last
      (effects ++ effects') := by
  let own := Frame.start (plainClosure (textCode source)) self this arguments .undefined false
  refine .quietly clock callers 4 own before last ending _ { own with pc := 1, stack := #[this] } rfl ?_
  refine .quietly clock callers 3 _ before last ending _ { own with pc := 2, slots := #[this] } rfl ?_
  refine .quietly clock callers 2 _ before last ending _ { own with pc := 3, slots := #[this], stack := #[this] } rfl ?_
  refine .pushes clock callers 1 _ before between last ending effects _ 1 (this.get (.ofString "body"))
    (fun value => value) found (fun _ => rfl) reads ?_
  exact .last _ between last ending effects' gives

def parsing (source : Units) (self this json parse body : Value) (arguments : Array Value) : Frame :=
  { Frame.start (plainClosure (jsonCode source)) self this arguments .undefined false with
    pc := 7, slots := #[this], stack := #[json, parse, body] }

/-- The `json` of a response looks up `JSON`, then its `parse`, and then the body of what it is called on, and calls the
second on the first with the third. -/
theorem goes_json (source : Units) (self this json parse body : Value) (arguments : Array Value)
    (before first second third paused last : World) (ending : Ending Turn)
    (effects₁ effects₂ effects₃ effects₄ effects₅ : List Host.Effect)
    (looks : Runs clock (readGlobal "JSON" (.ofString "JSON") true) before (.value json) first effects₁)
    (finds : Runs clock (json.get (.ofString "parse")) first (.value parse) second effects₂)
    (reads : Runs clock (this.get (.ofString "body")) second (.value body) third effects₃)
    (pauses : Runs clock (pause (parsing source self this json parse body arguments :: callers)) third (.value ()) paused
      effects₄)
    (calls : Runs clock (begin (parsing source self this json parse body arguments) callers 3
      (enter enterDepth parse json #[body])) paused ending last effects₅) :
    Goes clock callers 8 (.start (plainClosure (jsonCode source)) self this arguments .undefined false) before ending last
      (effects₁ ++ (effects₂ ++ (effects₃ ++ (effects₄ ++ effects₅)))) := by
  let own := Frame.start (plainClosure (jsonCode source)) self this arguments .undefined false
  let calling := parsing source self this json parse body arguments
  refine .quietly clock callers 7 own before last ending _ { own with pc := 1, stack := #[this] } rfl ?_
  refine .quietly clock callers 6 _ before last ending _ { own with pc := 2, slots := #[this] } rfl ?_
  refine .pushes clock callers 5 _ before first last ending effects₁ _ 0 (readGlobal "JSON" (.ofString "JSON") true)
    (fun value => value) json (fun _ => rfl) looks ?_
  refine .quietly clock callers 4 _ first last ending _
    { own with pc := 4, slots := #[this], stack := #[json, json] } rfl ?_
  refine .pushes clock callers 3 _ first second last ending effects₂ _ 1 (json.get (.ofString "parse"))
    (fun value => value) parse (fun _ => rfl) finds ?_
  refine .quietly clock callers 2 _ second last ending _
    { own with pc := 6, slots := #[this], stack := #[json, parse, this] } rfl ?_
  refine .pushes clock callers 1 _ second third last ending effects₃ _ 1 (this.get (.ofString "body"))
    (fun value => value) body (fun _ => rfl) reads ?_
  have counts (machine : Machine) : step calling callers machine = after (pause (calling :: callers) machine)
      (fun _ => begin calling callers 3 (enter enterDepth parse json #[body])) (throwAt (calling :: callers)) :=
    counted_eq calling callers machine (begin calling callers 3 (enter enterDepth parse json #[body]))
  exact .last _ third last ending _ (runs_after clock _ _ _ (step calling callers) third.machine third paused last ending
    effects₄ effects₅ (counts _) () pauses calls)

/-- A call of `fetch` gets as far as the native function: its arguments are spread, the host may be asked whether to
stop, and the values are handed over. -/
inductive Reaches (before : World) (items : Array Value) (paused ready : World) : List Host.Effect → Prop
  | ready (native : Ref) (id : Nat) (object : Object) (constructs : Bool) (data : Array Value) (list : Value)
    (spread : World) (effects effects' effects'' : List Host.Effect)
    (known : before.machine.cells.getD (call.captured.getD 0 0) .undefined = .object native)
    (spreads : Runs clock (spreading call.arguments) before (.value (gathered, list)) spread effects)
    (pauses : Runs clock (pause (call.calling native gathered list :: callers)) spread (.value ()) paused effects')
    (hands : Runs clock (itemsOf list) (paused.awaiting (call.suspended gathered :: callers)) (.value items) ready
      effects'')
    (there : ready.machine.heap[native]? = some object) (kind : object.kind = .native id constructs data)
    (named : Catalog.methods[id]? = some Primitives.nativeFetch) :
    Reaches before items paused ready (effects ++ (effects' ++ effects''))

theorem Reaches.bound (before paused ready : World) (items : Array Value) (effects : List Host.Effect)
    (reaches : Reaches clock callers call gathered before items paused ready effects) :
    ready.host.bound = before.host.bound := by
  cases reaches with
  | ready native id object constructs data list spread effects effects' effects'' known spreads pauses hands =>
    exact ((hands.bound clock).trans (pauses.bound clock)).trans (spreads.bound clock)

theorem Reaches.throws (before paused ready answered last : World) (items : Array Value) (reason : Value)
    (ending : Ending Turn) (effects effects' effects'' : List Host.Effect)
    (reaches : Reaches clock callers call gathered before items paused ready effects)
    (runs : Runs clock (Primitives.request items.toList) ready (.thrown reason) answered effects')
    (kept : answered.machine.waiting = (call.suspended gathered :: callers) :: paused.machine.waiting)
    (unwinds : Runs clock (throwAt (call.suspended gathered :: callers) reason) (paused.released answered) ending last
      effects'') : Goes clock callers 10 call.frame before ending last (effects ++ (effects' ++ effects'')) := by
  cases reaches with
  | ready native id object constructs data list spread effects effects₁ effects₂ known spreads pauses hands there kind
      named =>
    have handed := runs_handing clock native list id object constructs data items _ ready answered (.thrown reason)
      effects₂ effects' named hands there kind runs
    have begun := runs_begin_thrown clock (call.calling native gathered list) callers 3 paused answered last _ effects''
      kept (handing native list) reason ending handed unwinds
    have called := runs_after clock _ _ _ (step (call.calling native gathered list) callers) spread.machine spread paused
      last ending effects₁ _ (step_calling callers call native gathered list spread.machine) () pauses begun
    have whole := goes_spreading clock callers call native gathered list 1 before spread last ending effects _ known
      spreads (.last _ spread last ending _ called)
    simpa only [List.append_assoc] using whole

theorem Reaches.answers (before paused ready answered dressed last : World) (items : Array Value) (response : Value)
    (ending : Ending Turn) (effects effects' effects'' rest : List Host.Effect)
    (reaches : Reaches clock callers call gathered before items paused ready effects)
    (runs : Runs clock (Primitives.request items.toList) ready (.value response) answered effects')
    (proper : response ≠ .absent)
    (kept : answered.machine.waiting = (call.suspended gathered :: callers) :: paused.machine.waiting)
    (dresses : Runs clock (dressing call.text call.json response) (paused.released answered) (.value ()) dressed effects'')
    (gives : Runs clock (give callers response) dressed ending last rest) :
    Goes clock callers 21 call.frame before ending last (effects ++ (effects' ++ (effects'' ++ rest))) := by
  cases reaches with
  | ready native id object constructs data list spread effects effects₁ effects₂ known spreads pauses hands there kind
      named =>
    have handed := runs_handing clock native list id object constructs data items _ ready answered (.value response)
      effects₂ effects' named hands there kind runs
    have begun := runs_begin clock (call.calling native gathered list) callers 3 paused answered _ kept
      (handing native list) response handed
    have called := runs_after clock _ _ _ (step (call.calling native gathered list) callers) spread.machine spread paused _
      _ effects₁ _ (step_calling callers call native gathered list spread.machine) () pauses begun
    have rest_ := goes_dressing clock callers call gathered response proper (paused.released answered) dressed last ending
      effects'' rest dresses gives
    have whole := goes_spreading clock callers call native gathered list 12 before spread last ending effects _ known
      spreads (.turn 11 _ _ spread _ last ending _ _ called rest_)
    simpa only [List.append_assoc] using whole

/-- Once a call of `fetch` reaches the native function, this is called a single time, in one of its ways. What it throws
is thrown where it was called; what it gives becomes the result, with two functions more. -/
theorem fetch_wraps (before paused ready : World) (items : Array Value) (effects : List Host.Effect)
    (bound : before.host.bound = true) (reaches : Reaches clock callers call gathered before items paused ready effects) :
    ∃ ending answered effects', Fetches Catalog.methods clock ready items.toList ending answered effects' ∧
      (answered.machine.waiting = (call.suspended gathered :: callers) :: paused.machine.waiting →
        (∀ reason last final rest, ending = .thrown reason →
          Runs clock (throwAt (call.suspended gathered :: callers) reason) (paused.released answered) final last rest →
          Goes clock callers 10 call.frame before final last (effects ++ (effects' ++ rest))) ∧
        ∀ response dressed last final effects'' rest, ending = .value response →
          Runs clock (dressing call.text call.json response) (paused.released answered) (.value ()) dressed effects'' →
          Runs clock (give callers response) dressed final last rest →
          Goes clock callers 21 call.frame before final last (effects ++ (effects' ++ (effects'' ++ rest)))) := by
  obtain ⟨ending, answered, effects', fetches⟩ := exists_fetches clock Catalog.methods items.toList ready
  have runs := fetches.runs clock Catalog.methods items.toList ready answered ending effects'
    ((reaches.bound clock callers call gathered before paused ready items effects).trans bound)
  refine ⟨ending, answered, effects', fetches, fun kept => ⟨?_, ?_⟩⟩
  · rintro reason last final rest rfl unwinds
    exact reaches.throws clock callers call gathered before paused ready answered last items reason final effects effects'
      rest runs kept unwinds
  · rintro response dressed last final effects'' rest rfl dresses gives
    obtain ⟨ref, rfl⟩ := fetches.object
    exact reaches.answers clock callers call gathered before paused ready answered dressed last items (.object ref) final
      effects effects' effects'' rest runs nofun kept dresses gives

end

end Script

end ScriptSandbox
