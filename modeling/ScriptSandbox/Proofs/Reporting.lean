import ScriptSandbox.Proofs.Refusal

/-!
Looking at an error that the library has made. As long as the prototypes of errors are as they were, no code of a script
runs then: the error is written by the library, and reported by the name that it inherits.
-/

namespace ScriptSandbox

open Script Script.Execution

namespace Script

def errorTextMethod : Method := method "toString" 0 fun call => do newText (← Library.errorText call.this)

/-- No script has changed what reports of errors of a class rely on: the three prototypes on their way have no conversion
of their own, and the second one writes errors. Their name may be any text. -/
structure ErrorsKept (methods : Array Method) (heap : Array Object) (cls : ErrorClass) (name : Units) : Prop where
  own : ∃ object, heap[cls.prototype.ref]? = some object ∧ object.kind = .ordinary ∧
    object.parent = some Intrinsic.errorPrototype.ref ∧ object.properties.find? WellKnown.toPrimitive.key = none ∧
    object.properties.find? toStringKey = none ∧ object.properties.Holds nameKey (.text name)
  shared : ∃ object, heap[Intrinsic.errorPrototype.ref]? = some object ∧ object.kind = .ordinary ∧
    object.parent = some Intrinsic.objectPrototype.ref ∧ object.properties.find? WellKnown.toPrimitive.key = none ∧
    ∃ function, object.properties.Holds toStringKey function ∧ IsNative methods heap errorTextMethod function
  all : ∃ object, heap[Intrinsic.objectPrototype.ref]? = some object ∧ object.kind = .ordinary ∧ object.parent = none ∧
    object.properties.find? WellKnown.toPrimitive.key = none

/-- A machine with more objects, and otherwise the same for scripts. -/
structure Extends (before after : Machine) : Prop where
  grows : before.heap.size ≤ after.heap.size
  kept : ∀ ref < before.heap.size, after.heap[ref]? = before.heap[ref]?
  globals : after.globals = before.globals
  cells : after.cells = before.cells

theorem Extends.refl (machine : Machine) : Extends machine machine := ⟨Nat.le_refl _, fun _ _ => rfl, rfl, rfl⟩

theorem Extends.trans (first middle last : Machine) (before : Extends first middle) (after : Extends middle last) :
    Extends first last :=
  ⟨Nat.le_trans before.grows after.grows, fun ref less =>
    (after.kept ref (Nat.lt_of_lt_of_le less before.grows)).trans (before.kept ref less),
    after.globals.trans before.globals, after.cells.trans before.cells⟩

theorem Extends.there (before after : Machine) (ref : Ref) (object : Object) (extends_ : Extends before after)
    (there : before.heap[ref]? = some object) : after.heap[ref]? = some object :=
  (extends_.kept ref (lt_of_there before.heap ref object there)).trans there

theorem extends_withError (machine : Machine) (cls : ErrorClass) (message : Units) :
    Extends machine (machine.withError cls message) := by
  refine ⟨by simp [Machine.withError], fun ref less => ?_, rfl, rfl⟩
  rw [Machine.withError, Array.getElem?_push_lt less, Array.getElem?_eq_getElem less]

theorem ErrorsKept.mono (methods : Array Method) (before after : Machine) (cls : ErrorClass) (name : Units)
    (kept : ErrorsKept methods before.heap cls name) (extends_ : Extends before after) :
    ErrorsKept methods after.heap cls name := by
  obtain ⟨⟨own, there, ownRest⟩, ⟨shared, there', kind, parent, converts, function, holds, native⟩, ⟨all, there'', rest⟩⟩ :=
    kept
  have native' : IsNative methods after.heap errorTextMethod function := by
    obtain ⟨ref, object, id, constructs, data, same, there, rest⟩ := native
    exact ⟨ref, object, id, constructs, data, same, extends_.there before after ref object there, rest⟩
  exact ⟨⟨own, extends_.there before after _ own there, ownRest⟩,
    ⟨shared, extends_.there before after _ shared there', kind, parent, converts, function, holds, native'⟩,
    ⟨all, extends_.there before after _ all there'', rest⟩⟩

/-! ### Reading an error -/

theorem lookup_step (heap : Array Object) (key : Key) (steps : Nat) (ref : Ref) (object : Object)
    (there : heap[ref]? = some object) (kind : object.kind = .ordinary ∨ object.kind = .error) :
    lookup heap key (steps + 1) ref =
      match object.properties.find? key with
      | some property => .property property ref
      | none =>
        match object.parent with
        | some parent => lookup heap key steps parent
        | none => .missing := by
  rw [lookup, there]
  obtain ⟨_, parent, extensible, properties⟩ := object
  obtain ordinary | error := kind
  · cases ordinary
    rfl
  · cases error
    rfl

theorem find?_errorObject (cls : ErrorClass) (message : Units) (key : Key) :
    (errorObject cls message).properties.find? key =
      if stackKey = key then some (.hidden (.text traceText))
      else if messageKey = key then some (.hidden (.text message)) else none := by
  have first := Properties.sound_insert _ messageKey (.hidden (.text message)) Properties.sound_empty
  change (((Properties.empty.insert messageKey (.hidden (.text message))).insert stackKey
    (.hidden (.text traceText))).find? key) = _
  rw [Properties.find?_insert _ _ key _ first, Properties.find?_single]

section

variable (methods : Array Method) (machine : Machine) (cls : ErrorClass) (name message : Units) (ref : Ref)
  (there : machine.heap[ref]? = some (errorObject cls message)) (kept : ErrorsKept methods machine.heap cls name)

include there in
theorem get_error_own [Engine] (key : Key) (value : Value)
    (own : (errorObject cls message).properties.find? key = some (.hidden value)) :
    (Value.object ref).get key machine = .done (.value value machine) := by
  refine get_of_found ref machine key (.hidden value) ref value ?_ rfl
  rw [longestChain, lookup_step machine.heap key 99999 ref _ there (.inr rfl), own]

include there kept

/-- What an error does not have itself comes from the prototype of its class, from that of all errors, or from that of
all objects. -/
theorem lookup_error (key : Key) (other : (errorObject cls message).properties.find? key = none) :
    ∃ own shared all, machine.heap[cls.prototype.ref]? = some own ∧
      machine.heap[Intrinsic.errorPrototype.ref]? = some shared ∧
      machine.heap[Intrinsic.objectPrototype.ref]? = some all ∧
      lookup machine.heap key longestChain ref =
        match own.properties.find? key with
        | some property => .property property cls.prototype.ref
        | none =>
          match shared.properties.find? key with
          | some property => .property property Intrinsic.errorPrototype.ref
          | none =>
            match all.properties.find? key with
            | some property => .property property Intrinsic.objectPrototype.ref
            | none => .missing := by
  obtain ⟨⟨own, thereOwn, kindOwn, above, -⟩, ⟨shared, thereShared, kindShared, above', -⟩,
    ⟨all, thereAll, kindAll, above'', -⟩⟩ := kept
  refine ⟨own, shared, all, thereOwn, thereShared, thereAll, ?_⟩
  rw [longestChain, lookup_step machine.heap key 99999 ref _ there (.inr rfl), other]
  change lookup machine.heap key (99998 + 1) cls.prototype.ref = _
  rw [lookup_step machine.heap key 99998 _ own thereOwn (.inl kindOwn), above]
  cases own.properties.find? key with
  | some property => rfl
  | none =>
    change lookup machine.heap key (99997 + 1) Intrinsic.errorPrototype.ref = _
    rw [lookup_step machine.heap key 99997 _ shared thereShared (.inl kindShared), above']
    cases shared.properties.find? key with
    | some property => rfl
    | none =>
      change lookup machine.heap key (99996 + 1) Intrinsic.objectPrototype.ref = _
      rw [lookup_step machine.heap key 99996 _ all thereAll (.inl kindAll), above'']

variable [Engine]

theorem get_error_name : (Value.object ref).get nameKey machine = .done (.value (.text name) machine) := by
  have other : (errorObject cls message).properties.find? nameKey = none := by
    rw [find?_errorObject, if_neg (by decide +kernel), if_neg (by decide +kernel)]
  obtain ⟨own, shared, all, thereOwn, -, -, found⟩ :=
    lookup_error methods machine cls name message ref there kept nameKey other
  obtain ⟨object, there', -, -, -, -, property, holds, content⟩ := kept.own
  rw [thereOwn] at there'
  cases there'
  rw [holds] at found
  exact get_of_found ref machine nameKey property _ _ found content

theorem get_error_text : ∃ function, (Value.object ref).get toStringKey machine = .done (.value function machine) ∧
    IsNative methods machine.heap errorTextMethod function := by
  have other : (errorObject cls message).properties.find? toStringKey = none := by
    rw [find?_errorObject, if_neg (by decide +kernel), if_neg (by decide +kernel)]
  obtain ⟨own, shared, all, thereOwn, thereShared, -, found⟩ :=
    lookup_error methods machine cls name message ref there kept toStringKey other
  obtain ⟨object, there', -, -, -, missing, -⟩ := kept.own
  obtain ⟨object', there'', -, -, -, function, ⟨property, holds, content⟩, native⟩ := kept.shared
  rw [thereOwn] at there'
  cases there'
  rw [thereShared] at there''
  cases there''
  rw [missing, holds] at found
  exact ⟨function, get_of_found ref machine toStringKey property _ _ found content, native⟩

theorem getMethod_error : (Value.object ref).getMethod WellKnown.toPrimitive.key machine = .done (.value none machine) := by
  have other : (errorObject cls message).properties.find? WellKnown.toPrimitive.key = none := by
    rw [find?_errorObject, if_neg (by decide +kernel), if_neg (by decide +kernel)]
  obtain ⟨own, shared, all, thereOwn, thereShared, thereAll, found⟩ :=
    lookup_error methods machine cls name message ref there kept WellKnown.toPrimitive.key other
  obtain ⟨object, there', -, -, missing, -⟩ := kept.own
  obtain ⟨object', there'', -, -, missing', -⟩ := kept.shared
  obtain ⟨object'', there''', -, -, missing''⟩ := kept.all
  rw [thereOwn] at there'
  cases there'
  rw [thereShared] at there''
  cases there''
  rw [thereAll] at there'''
  cases there'''
  rw [missing, missing', missing''] at found
  exact bind_value ((Value.object ref).get WellKnown.toPrimitive.key) _ machine machine Value.undefined
    (get_of_missing ref machine _ found)

theorem errorText_error : ∃ text, Library.errorText (.object ref) machine = .done (.value text machine) := by
  have named := get_error_name methods machine cls name message ref there kept
  have worded : (Value.object ref).get messageKey machine = .done (.value (.text message) machine) := by
    refine get_error_own machine cls message ref there messageKey (.text message) ?_
    rw [find?_errorObject, if_neg (by decide +kernel), if_pos rfl]
  obtain ⟨text, joined⟩ : ∃ text, (if name.isEmpty = true then pure message else if message.isEmpty = true then pure name
      else pure (name ++ Units.ofString ": " ++ message) : Execution Units) machine = .done (.value text machine) := by
    split
    · exact ⟨message, rfl⟩
    · split
      · exact ⟨name, rfl⟩
      · exact ⟨_, rfl⟩
  refine ⟨text, ?_⟩
  refine (bind_value ((Value.object ref).get nameKey) _ machine machine (.text name) named).trans ?_
  exact (bind_value ((Value.object ref).get messageKey) _ machine machine _ worded).trans joined

end

/-! ### Writing an error -/

/-- A computation has a good result or throws, by itself, and at most adds objects to a machine. -/
inductive Gentle (before : Machine) (good : α → Prop) : Dialogue (Outcome α) → Prop
  | value (result : α) (after : Machine) (extends_ : Extends before after) (holds : good result) :
    Gentle before good (.done (.value result after))
  | thrown (reason : Value) (after : Machine) (extends_ : Extends before after) :
    Gentle before good (.done (.thrown reason after))

theorem gentle_bind (middle : α → Prop) (good : β → Prop) (first : Execution α) (next : α → Execution β)
    (before : Machine) (started : Gentle before middle (first before))
    (later : ∀ result after, Extends before after → middle result → Gentle before good (next result after)) :
    Gentle before good ((first >>= next) before) := by
  rw [bind_eq]
  generalize first before = dialogue at started
  cases started with
  | value result after extends_ holds => exact later result after extends_ holds
  | thrown reason after extends_ => exact .thrown reason after extends_

theorem gentle_throwNew (good : α → Prop) (cls : ErrorClass) (message : String) (machine : Machine) :
    Gentle machine good ((throwNew cls message : Execution α) machine) := by
  rw [throwNew_eq]
  exact .thrown _ _ (extends_withError machine cls _)

theorem gentle_charge (size : Nat) (machine : Machine) : Gentle machine (fun _ => True) (charge size machine) := by
  have noted : Gentle machine (fun _ => True) (note size machine) :=
    .value () _ ⟨Nat.le_refl _, fun _ _ => rfl, rfl, rfl⟩ trivial
  obtain ⟨same, -⟩ | ⟨refused, -⟩ := charge_cases size machine
  · rw [same]
    exact noted
  · rw [refused]
    exact gentle_throwNew _ .internalError _ machine

theorem gentle_newText (text : Units) (machine : Machine) :
    Gentle machine (fun value => value = .text text) (newText text machine) := by
  unfold newText
  by_cases long : 256 ≤ text.size
  · simp only [if_pos long]
    exact gentle_bind _ _ _ _ machine (gentle_charge (textSize text) machine) fun _ after extends_ _ =>
      .value _ after extends_ rfl
  · simp only [if_neg long]
    exact .value _ machine (.refl _) rfl

section

variable (methods : Array Method) (machine : Machine) (cls : ErrorClass) (name message : Units) (ref : Ref)
  (there : machine.heap[ref]? = some (errorObject cls message)) (kept : ErrorsKept methods machine.heap cls name)

include there kept

theorem gentle_call_errorText (depth : Nat) (function : Value) (native : IsNative methods machine.heap errorTextMethod function) :
    Gentle machine (fun value => ∃ text, value = .text text)
      (@call (engine methods depth) function (.object ref) #[] machine) := by
  cases depth with
  | zero => exact gentle_throwNew _ .rangeError _ machine
  | succ depth =>
    obtain ⟨callee, id, constructs, data, rfl, found, known⟩ :=
      kindOf_native methods machine.heap errorTextMethod function native
    obtain ⟨text, written⟩ := @errorText_error methods machine cls name message ref there kept (engine methods depth)
    have ran : Gentle machine (fun value => ∃ text, value = .text text) (@runNative (engine methods depth) ⟨methods⟩ id
        { this := .object ref, arguments := #[], newTarget := .undefined, callee, data } machine) := by
      have opened : @runNative (engine methods depth) ⟨methods⟩ id
          { this := .object ref, arguments := #[], newTarget := .undefined, callee, data } =
          (@Library.errorText (engine methods depth) (.object ref) >>= fun text => newText text) := by
        simp only [runNative, found]
        rfl
      rw [opened, bind_value _ _ machine machine text written]
      have made := gentle_newText text machine
      generalize newText text machine = dialogue at made
      cases made with
      | value result after extends_ holds => exact .value result after extends_ ⟨text, holds⟩
      | thrown reason after extends_ => exact .thrown reason after extends_
    have entered : Gentle machine (fun entered => ∃ text : Units, entered = .result (.text text))
        (@enter (engine methods depth) ⟨methods⟩ enterDepth (.object callee) (.object ref) #[] machine) := by
      change Gentle _ _ ((kindOf callee >>= fun kind => _ : Execution Entered) machine)
      rw [bind_value _ _ _ _ _ (known machine rfl)]
      refine gentle_bind _ _ _ _ machine ran ?_
      rintro _ after extends_ ⟨text, rfl⟩
      exact .value _ after extends_ ⟨text, rfl⟩
    change Gentle _ _ ((@enter (engine methods depth) ⟨methods⟩ enterDepth (.object callee) (.object ref) #[] >>=
      fun entered => @finishEntered (engine methods depth) ⟨methods⟩ entered >>= fun value =>
        modify (fun after => { after with depth := machine.depth }) >>= fun _ => pure value) machine)
    refine gentle_bind _ _ _ _ machine entered ?_
    rintro _ after extends_ ⟨text, rfl⟩
    exact .value _ _ ⟨extends_.grows, extends_.kept, extends_.globals, extends_.cells⟩ ⟨text, rfl⟩

theorem gentle_toUnits (depth : Nat) : Gentle machine (fun _ => True)
    (@Value.toUnits (engine methods depth) (.object ref) machine) := by
  let _ := engine methods depth
  obtain ⟨function, found, native⟩ := get_error_text methods machine cls name message ref there kept
  have primitive : Gentle machine (fun found => ∃ text : Units, found = some (.text text))
      (primitiveUnder (.object ref) toStringKey machine) := by
    change Gentle _ _ (((Value.object ref).get toStringKey >>= fun found => _ : Execution (Option Value)) machine)
    rw [bind_value _ _ machine machine function found]
    rw [bind_value (isCallable function) _ machine machine true (isCallable_native methods errorTextMethod function machine native)]
    refine gentle_bind _ _ _ _ machine
      (gentle_call_errorText methods machine cls name message ref there kept depth function native) ?_
    rintro _ after extends_ ⟨text, rfl⟩
    exact .value _ after extends_ ⟨text, rfl⟩
  have converted : Gentle machine (fun value => ∃ text, value = .text text)
      ((Value.object ref).toPrimitive .text machine) := by
    change Gentle _ _ (((Value.object ref).getMethod WellKnown.toPrimitive.key >>= fun found => _ : Execution Value) machine)
    rw [bind_value _ _ machine machine none (getMethod_error methods machine cls name message ref there kept)]
    refine gentle_bind _ _ _ _ machine primitive ?_
    rintro _ after extends_ ⟨text, rfl⟩
    exact .value _ after extends_ ⟨text, rfl⟩
  change Gentle _ _ (((Value.object ref).toPrimitive .text >>= fun found => _ : Execution Units) machine)
  refine gentle_bind _ _ _ _ machine converted ?_
  rintro _ after extends_ ⟨text, rfl⟩
  exact .value _ after extends_ trivial

end

end Script

end ScriptSandbox
