import ScriptSandbox.Proofs.Reading

/-!
Texts without an end. The text of an array begins with that of its first element, so an array whose first elements
lead on through arrays forever has none: however deeply functions of the library may call each other, the engine
gives up with the error of too many calls.
-/

namespace ScriptSandbox.Script

open Execution

def IsOverflow (machine : Machine) (reason : Value) : Prop :=
  ∃ ref, reason = .object ref ∧ machine.heap[ref]? =
    some (errorObject .rangeError (Units.ofString "Maximum call stack size exceeded"))

def Overflows (part : Execution α) (machine : Machine) : Prop :=
  ∃ reason after, part machine = .done (.thrown reason after) ∧ IsOverflow after reason

theorem overflows_stackOverflow (machine : Machine) : Overflows (stackOverflow : Execution α) machine := by
  refine ⟨_, _, throwNew_eq .rangeError _ machine, _, rfl, ?_⟩
  exact Array.getElem?_push_size

theorem overflows_bind (first : Execution α) (next : α → Execution β) (machine : Machine) (fails : Overflows first machine) :
    Overflows (first >>= next) machine := by
  obtain ⟨reason, after, ended, overflow⟩ := fails
  exact ⟨reason, after, bind_thrown first next machine after reason ended, overflow⟩

theorem overflows_then (first : Execution α) (next : α → Execution β) (before after : Machine) (result : α)
    (ended : first before = .done (.value result after)) (fails : Overflows (next result) after) :
    Overflows (first >>= next) before := by
  rw [Overflows, bind_value first next before after result ended]
  exact fails

theorem overflows_iterate (step : σ → Execution (σ ⊕ α)) (count : Nat) (state : σ) (machine : Machine)
    (some_ : 0 < count) (fails : Overflows (step state) machine) :
    Overflows (Execution.iterate step count state) machine := by
  obtain ⟨count, rfl⟩ := Nat.exists_eq_succ_of_ne_zero (Nat.ne_of_gt some_)
  rw [iterate_succ]
  exact overflows_bind (step state) _ machine fails

theorem overflows_call (methods : Array Method) (depth : Nat) (method : Method) (function receiver : Value)
    (arguments : Array Value) (machine : Machine) (native : IsNative methods machine.heap method function)
    (fails : ∀ callee data, Overflows (@Method.run method (engine methods depth)
      { this := receiver, arguments, newTarget := .undefined, callee, data }) machine) :
    Overflows (@call (engine methods (depth + 1)) function receiver arguments) machine := by
  obtain ⟨ref, id, constructs, data, rfl, found, known⟩ := kindOf_native methods machine.heap method function native
  have ran : Overflows (@runNative (engine methods depth) ⟨methods⟩ id
      { this := receiver, arguments, newTarget := .undefined, callee := ref, data }) machine := by
    have opened : @runNative (engine methods depth) ⟨methods⟩ id
        { this := receiver, arguments, newTarget := .undefined, callee := ref, data } =
        @Method.run method (engine methods depth)
          { this := receiver, arguments, newTarget := .undefined, callee := ref, data } := by
      simp only [runNative, found]
    rw [opened]
    exact fails ref data
  have entered : Overflows (@enter (engine methods depth) ⟨methods⟩ enterDepth (.object ref) receiver arguments) machine := by
    refine overflows_then (kindOf ref) _ machine machine _ (known machine rfl) ?_
    exact overflows_bind _ _ machine ran
  exact overflows_bind _ _ machine entered

/-! ### What arrays inherit -/

section

variable (methods : Array Method) (machine : Machine) (untouched : Untouched methods machine.heap)
  (ref : Ref) (elements : Array Value) (there : machine.heap[ref]? = some (fullArray elements))

theorem own_array (heap : Array Object) (object : Object) (key : Key) (elements : Array Value) (length : Nat)
    (fixedLength : Bool) (kind : object.kind = .array elements length fixedLength) (named : ∀ n, key ≠ .index n)
    (other : key ≠ lengthKey) : ownProperty? heap object key = object.properties.find? key := by
  cases key with
  | index n => exact absurd rfl (named n)
  | name text => exact own_name heap object elements length fixedLength text kind other
  | symbol id => exact own_symbol heap object elements length id fixedLength kind
  | secret units =>
    unfold ownProperty?
    rw [kind]

include untouched there

theorem lookup_fullArray (key : Key) (named : ∀ n, key ≠ .index n) (other : key ≠ lengthKey) :
    ∃ properties above, ArrayTable methods machine.heap properties ∧ ObjectTable methods machine.heap above ∧
      lookup machine.heap key longestChain ref =
        match properties.find? key with
        | some property => .property property Intrinsic.arrayPrototype.ref
        | none =>
          match above.find? key with
          | some property => .property property Intrinsic.objectPrototype.ref
          | none => .missing := by
  obtain ⟨⟨open_, above, thereObject, objectTable⟩, open', properties, thereArray, arrayTable⟩ := untouched
  refine ⟨properties, above, arrayTable, objectTable, ?_⟩
  rw [longestChain, lookup_of_there machine.heap key 99999 ref _ there (.inr ⟨_, _, _, rfl⟩),
    own_array machine.heap _ key elements _ _ rfl named other]
  change lookup machine.heap key (99998 + 1) Intrinsic.arrayPrototype.ref = _
  rw [lookup_of_there machine.heap key 99998 _ _ thereArray (.inr ⟨_, _, _, rfl⟩),
    own_array machine.heap _ key _ _ _ rfl named other]
  cases properties.find? key with
  | some property => rfl
  | none =>
    change lookup machine.heap key (99997 + 1) Intrinsic.objectPrototype.ref = _
    have last := lookup_of_there machine.heap key 99997 _ _ thereObject (.inl rfl)
    rw [own_ordinary machine.heap _ key rfl] at last
    exact last

variable [Engine]

theorem get_fullArray_text : ∃ function, (Value.object ref).get toStringKey machine = .done (.value function machine) ∧
    IsNative methods machine.heap Library.arrayTextMethod function := by
  obtain ⟨properties, above, table, -, found⟩ := lookup_fullArray methods machine untouched ref elements there toStringKey
    (by rw [toStringKey_eq]; nofun) (by decide +kernel)
  obtain ⟨function, ⟨property, holds, content⟩, native⟩ := table.text
  rw [holds] at found
  exact ⟨function, get_of_found ref machine toStringKey property _ function found content, native⟩

theorem get_fullArray_join : (Value.object ref).get joinKey machine = .done (.value Intrinsic.arrayJoin.value machine) := by
  obtain ⟨properties, above, table, -, found⟩ := lookup_fullArray methods machine untouched ref elements there joinKey
    (fun n => by have named : joinKey = .name (Units.ofString "join") := by decide +kernel
                 rw [named]; nofun) (by decide +kernel)
  obtain ⟨property, holds, content⟩ := table.join
  rw [holds] at found
  exact get_of_found ref machine joinKey property _ _ found content

theorem getMethod_fullArray : (Value.object ref).getMethod WellKnown.toPrimitive.key machine =
    .done (.value none machine) := by
  obtain ⟨properties, above, table, table', found⟩ := lookup_fullArray methods machine untouched ref elements there
    WellKnown.toPrimitive.key (fun _ => nofun) (by decide +kernel)
  rw [table.without _ (by simp), table'.without _ (by simp)] at found
  exact bind_value ((Value.object ref).get WellKnown.toPrimitive.key) _ machine machine Value.undefined
    (get_of_missing ref machine _ found)

end

/-! ### Arrays that begin with each other -/

/-- Arrays of which each begins with another one, or itself. -/
def Endless (heap : Array Object) (among : Ref → Prop) : Prop :=
  ∀ ref, among ref → ∃ elements next, heap[ref]? = some (fullArray elements) ∧ elements.size ≤ Value.longest ∧
    elements[0]? = some (.object next) ∧ among next

section

variable (methods : Array Method) (machine : Machine) (untouched : Untouched methods machine.heap) (among : Ref → Prop)
  (endless : Endless machine.heap among)

include untouched endless

theorem overflows_arrayToString [Engine] (called : Call) (ref : Ref) (receiver : called.this = .object ref)
    (inside : among ref) (texts : ∀ next, among next → Overflows (Value.object next).toUnits machine) :
    Overflows (Library.arrayToString called) machine := by
  obtain ⟨elements, next, there, bound, begins, later⟩ := endless ref inside
  have size : 0 < elements.size := by
    rcases Nat.eq_zero_or_pos elements.size with empty | positive
    · rw [Array.getElem?_eq_none (by omega)] at begins
      cases begins
    · exact positive
  have walked : Library.walkOf (.object ref) machine =
      .done (.value { object := .object ref, ref, length := elements.size } machine) :=
    bind_value (lengthOf (.object ref)) _ machine machine _ (lengthOf_fullArray ref machine elements there bound)
  have element := get_element ref machine elements there 0 (.object next) begins nofun
  unfold Library.arrayToString
  rw [receiver]
  refine overflows_then (Value.toObject (.object ref)) _ machine machine ref rfl ?_
  refine overflows_then _ _ machine machine _ (get_fullArray_join methods machine untouched ref elements there) ?_
  rw [if_pos (show Value.same Intrinsic.arrayJoin.value Intrinsic.arrayJoin.value = true from beq_self_eq_true _)]
  refine overflows_then _ _ machine machine _ walked ?_
  refine overflows_bind (Library.joinElements _ _) _ machine ?_
  unfold Library.joinElements repeating
  refine overflows_iterate _ plenty _ machine (by decide) ?_
  simp only [if_pos size]
  refine overflows_then _ _ machine machine _ element ?_
  exact overflows_bind _ _ machine (texts next later)

theorem overflows_toUnits_of_call [Engine] (ref : Ref) (inside : among ref)
    (calls : ∀ function, IsNative methods machine.heap Library.arrayTextMethod function →
      Overflows (call function (.object ref) #[]) machine) : Overflows (Value.object ref).toUnits machine := by
  obtain ⟨elements, -, there, -⟩ := endless ref inside
  obtain ⟨function, found, native⟩ := get_fullArray_text methods machine untouched ref elements there
  have primitive : Overflows (primitiveUnder (.object ref) toStringKey) machine := by
    refine overflows_then ((Value.object ref).get toStringKey) _ machine machine function found ?_
    refine overflows_then (isCallable function) _ machine machine true
      (isCallable_native methods Library.arrayTextMethod function machine native) ?_
    exact overflows_bind _ _ machine (calls function native)
  have converted : Overflows ((Value.object ref).toPrimitive .text) machine := by
    refine overflows_then _ _ machine machine none (getMethod_fullArray methods machine untouched ref elements there) ?_
    exact overflows_bind _ _ machine primitive
  exact overflows_bind _ _ machine converted

/-- The engine gives up on the text of such an array, however deeply its functions may call each other. The induction
is on this depth: each array takes one level of it. -/
theorem overflows_toUnits (depth : Nat) (ref : Ref) (inside : among ref) :
    Overflows (@Value.toUnits (engine methods depth) (.object ref)) machine := by
  induction depth generalizing ref with
  | zero =>
    exact @overflows_toUnits_of_call methods machine untouched among endless (engine methods 0) ref inside
      fun function native => overflows_stackOverflow machine
  | succ depth ih =>
    apply @overflows_toUnits_of_call methods machine untouched among endless (engine methods (depth + 1)) ref inside
    intro function native
    apply overflows_call methods depth Library.arrayTextMethod function (.object ref) #[] machine native
    intro callee data
    exact @overflows_arrayToString methods machine untouched among endless (engine methods depth) _ ref rfl inside ih

end

end ScriptSandbox.Script
