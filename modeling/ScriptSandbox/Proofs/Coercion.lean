import ScriptSandbox.Proofs.Endings
import ScriptSandbox.Proofs.Untouched
import ScriptSandbox.Script.Interpreter

/-!
Conversions of the objects of a host to texts and numbers. They run functions of the library only, and these
change none of the objects: what they add to the heap comes after them. The induction is on how deeply the
functions of the library may still call each other.
-/

namespace ScriptSandbox.Script

open Execution

theorem IsNative.kept (methods : Array Method) (realm heap : Array Object) (top : Ref) (method : Method)
    (value : Value) (native : IsNative methods realm method value) (furnished : Furnished realm heap top) :
    IsNative methods heap method value := by
  obtain ⟨ref, object, id, constructs, data, same, there, kind, found⟩ := native
  exact ⟨ref, object, id, constructs, data, same,
    (furnished.kept ref (lt_of_there realm ref object there)).trans there, kind, found⟩

theorem furnished_push (realm heap : Array Object) (top : Ref) (object : Object) (furnished : Furnished realm heap top) :
    Furnished realm (heap.push object) top := by
  obtain ⟨least, greatest⟩ := furnished.bound
  have same (ref : Ref) (less : ref < top) : (heap.push object)[ref]? = heap[ref]? := by
    rw [Array.getElem?_push_lt (Nat.lt_of_lt_of_le less greatest),
      Array.getElem?_eq_getElem (Nat.lt_of_lt_of_le less greatest)]
  refine ⟨⟨least, ?_⟩, fun ref less => ?_, fun ref low high => ?_⟩
  · rw [Array.size_push]
    exact Nat.le_succ_of_le greatest
  · rw [same ref (Nat.lt_of_lt_of_le less least)]
    exact furnished.kept ref less
  · rw [same ref high]
    exact furnished.data ref low high

/-! ### Computations that keep the objects of the host -/

/-- A computation leaves a furnished heap furnished, whatever way it ends, and a result is good. -/
def Keeps (realm : Array Object) (top : Ref) (good : α → Prop) (part : Execution α) : Prop :=
  ∀ machine : Machine, Furnished realm machine.heap top →
    Ends (fun result after => Furnished realm after.heap top ∧ good result)
      (fun after => Furnished realm after.heap top) (part machine)

section

variable (realm : Array Object) (top : Ref)

theorem Keeps.weaken (good better : α → Prop) (part : Execution α) (keeps : Keeps realm top better part)
    (each : ∀ result, better result → good result) : Keeps realm top good part := fun machine furnished =>
  (keeps machine furnished).weaken _ _ _ _ _ (fun result _ ⟨kept, holds⟩ => ⟨kept, each result holds⟩) fun _ kept => kept

theorem keeps_pure (good : α → Prop) (result : α) (holds : good result) :
    Keeps realm top good (pure result : Execution α) := fun machine furnished => .value result machine ⟨furnished, holds⟩

theorem keeps_bind (middle : α → Prop) (good : β → Prop) (first : Execution α) (next : α → Execution β)
    (starts : Keeps realm top middle first) (later : ∀ result, middle result → Keeps realm top good (next result)) :
    Keeps realm top good (first >>= next) := fun machine furnished =>
  ends_bind _ _ _ first next machine (starts machine furnished) fun result after ⟨kept, holds⟩ =>
    later result holds after kept

theorem keeps_throwNew (good : α → Prop) (cls : ErrorClass) (message : String) :
    Keeps realm top good (throwNew cls message : Execution α) := fun machine furnished =>
  ends_throwNew _ _ cls message machine (furnished_push realm machine.heap top _ furnished)

theorem keeps_iterate (holds : σ → Prop) (good : α → Prop) (step : σ → Execution (σ ⊕ α)) (count : Nat) (state : σ)
    (starts : holds state) (steps : ∀ state, holds state → Keeps realm top (fun next => match next with
      | .inl state => holds state
      | .inr result => good result) (step state)) : Keeps realm top good (Execution.iterate step count state) := by
  intro machine furnished
  refine ends_iterate (fun state after => Furnished realm after.heap top ∧ holds state) _ _ step count state machine
    ⟨furnished, starts⟩ (fun _ _ kept => kept.1) fun state machine ⟨kept, holding⟩ => ?_
  refine (steps state holding machine kept).weaken _ _ _ _ _ (fun next after done => ?_) fun _ fails => fails
  cases next with
  | inl state => exact done
  | inr result => exact done

theorem keeps_charge (size : Nat) : Keeps realm top (fun _ => True) (charge size) := by
  intro machine furnished
  obtain ⟨noted, -⟩ | ⟨refused, -⟩ := charge_cases size machine
  · rw [noted]
    exact .value () _ ⟨furnished, trivial⟩
  · rw [refused]
    exact ends_throwNew _ _ _ _ _ (furnished_push realm machine.heap top _ furnished)

theorem keeps_newText (text : Units) : Keeps realm top (fun value => value = .text text) (newText text) := by
  unfold newText
  by_cases long : 256 ≤ text.size
  · simp only [if_pos long]
    exact keeps_bind realm top _ _ _ _ (keeps_charge realm top (textSize text)) fun _ _ =>
      keeps_pure realm top _ _ rfl
  · simp only [if_neg long]
    exact keeps_pure realm top _ _ rfl

end

/-! ### Reading and calling -/

section

variable (methods : Array Method) (realm : Array Object) (top : Ref)

theorem kindOf_of_there (ref : Ref) (object : Object) (machine : Machine) (there : machine.heap[ref]? = some object) :
    kindOf ref machine = .done (.value object.kind machine) := by
  change Dialogue.done (Outcome.value (machine.heap.getD ref default).kind machine) = _
  rw [Array.getD_eq_getD_getElem?, there, Option.getD_some]

theorem kindOf_tame (untouched : Untouched methods realm) (ref : Ref) (tame : Tame realm top ref)
    (machine : Machine) (furnished : Furnished realm machine.heap top) :
    ∃ kind, kindOf ref machine = .done (.value kind machine) ∧
      (kind = .ordinary ∨ ∃ elements length fixedLength, kind = .array elements length fixedLength) := by
  obtain ⟨object, there, transparent⟩ := tame_transparent methods realm machine.heap top ref untouched furnished tame
  exact ⟨object.kind, kindOf_of_there ref object machine there, transparent.kind⟩

theorem keeps_kindOf (untouched : Untouched methods realm) (ref : Ref) (tame : Tame realm top ref) :
    Keeps realm top (fun kind => kind = .ordinary ∨
      ∃ elements length fixedLength, kind = .array elements length fixedLength) (kindOf ref) := by
  intro machine furnished
  obtain ⟨kind, known, each⟩ := kindOf_tame methods realm top untouched ref tame machine furnished
  exact .of_eq _ _ _ kind machine known ⟨furnished, each⟩

theorem keeps_isArray (untouched : Untouched methods realm) (ref : Ref) (tame : Tame realm top ref) :
    Keeps realm top (fun _ => True) (Value.object ref).isArray := by
  refine keeps_bind realm top _ _ _ _ (keeps_kindOf methods realm top untouched ref tame) fun kind each => ?_
  obtain rfl | ⟨_, _, _, rfl⟩ := each <;> exact keeps_pure realm top _ _ trivial

theorem isCallable_datum (untouched : Untouched methods realm) (value : Value) (datum : IsDatum realm.size top value)
    (machine : Machine) (furnished : Furnished realm machine.heap top) :
    isCallable value machine = .done (.value false machine) := by
  cases value with
  | object ref =>
    obtain ⟨kind, known, kinds⟩ := kindOf_tame methods realm top untouched ref (.inr (.inr datum)) machine furnished
    have calls : kind.calls = false := by
      obtain rfl | ⟨_, _, _, rfl⟩ := kinds <;> rfl
    rw [isCallable, bind_value _ _ _ _ kind known, calls]
    rfl
  | _ => rfl

theorem keeps_isCallable_datum (untouched : Untouched methods realm) (value : Value)
    (datum : IsDatum realm.size top value) : Keeps realm top (fun callable => callable = false) (isCallable value) :=
  fun machine furnished =>
    .of_eq _ _ _ false machine (isCallable_datum methods realm top untouched value datum machine furnished)
      ⟨furnished, rfl⟩

theorem isCallable_native (method : Method) (value : Value) (machine : Machine)
    (native : IsNative methods machine.heap method value) :
    isCallable value machine = .done (.value true machine) := by
  obtain ⟨ref, object, id, constructs, data, rfl, there, kind, -⟩ := native
  rw [isCallable, bind_value _ _ _ _ _ (kindOf_of_there ref object machine there), kind]
  rfl

end

section

variable (methods : Array Method) (realm : Array Object) (top : Ref) [Engine]

theorem getFrom_of_lookup (key : Key) (receiver : Value) (depth : Nat) (ref : Ref) (machine : Machine) :
    getFrom key receiver (depth + 1) ref machine =
      match lookup machine.heap key longestChain ref with
      | .property property _ => readProperty property receiver machine
      | .missing => .done (.value .undefined machine)
      | .proxy ref => (do
        let (target, handler) ← proxyParts ref
        match ← getFrom (.ofString "get") (.object handler) depth handler with
        | .undefined => getFrom key receiver depth target
        | .null => getFrom key receiver depth target
        | trap =>
          if !(← isCallable trap) then throwType "not a function"
          else call trap (.object handler) #[.object target, key.toValue, receiver] : Execution Value) machine := by
  change (match lookup machine.heap key longestChain ref with
    | .property property _ => readProperty property receiver
    | .missing => return .undefined
    | .proxy ref => (_ : Execution Value) : Execution Value) machine = _
  cases lookup machine.heap key longestChain ref <;> rfl

theorem get_tame (untouched : Untouched methods realm) (key : Key) (asked : Asked key) (other : key ≠ protoKey)
    (ref : Ref) (tame : Tame realm top ref) (machine : Machine) (furnished : Furnished realm machine.heap top) :
    ∃ found, (Value.object ref).get key machine = .done (.value found machine) ∧
      (found = .undefined ∨ Harmless methods realm top key found) := by
  change ∃ found, getFrom key (.object ref) (999 + 1) ref machine = _ ∧ _
  rw [getFrom_of_lookup]
  obtain missing | ⟨property, holder, found, readable⟩ :=
    lookup_tame methods realm machine.heap top untouched furnished key asked longestChain ref tame
  · rw [missing]
    exact ⟨.undefined, rfl, .inl rfl⟩
  · rw [found]
    obtain ⟨proto, -⟩ | ⟨-, value, content, harmless⟩ := readable
    · exact absurd proto other
    · refine ⟨value, ?_, .inr harmless⟩
      change readProperty property (.object ref) machine = _
      rw [readProperty, content]
      rfl

theorem keeps_get (untouched : Untouched methods realm) (key : Key) (asked : Asked key) (other : key ≠ protoKey)
    (ref : Ref) (tame : Tame realm top ref) :
    Keeps realm top (fun found => found = .undefined ∨ Harmless methods realm top key found)
      ((Value.object ref).get key) := by
  intro machine furnished
  obtain ⟨found, read, harmless⟩ := get_tame methods realm top untouched key asked other ref tame machine furnished
  exact .of_eq _ _ _ found machine read ⟨furnished, harmless⟩

end

theorem kindOf_native (methods : Array Method) (heap : Array Object) (method : Method) (value : Value)
    (native : IsNative methods heap method value) :
    ∃ ref id constructs data, value = .object ref ∧ methods[id]? = some method ∧ ∀ machine : Machine,
      machine.heap = heap → kindOf ref machine = .done (.value (.native id constructs data) machine) := by
  obtain ⟨ref, object, id, constructs, data, rfl, there, kind, found⟩ := native
  refine ⟨ref, id, constructs, data, rfl, found, fun machine same => ?_⟩
  rw [kindOf_of_there ref object machine (same.symm ▸ there), kind]

theorem ends_callValue [Engine] [Catalog] (method : Method) (ref : Ref) (id : Nat) (constructs : Bool)
    (receiver : Value) (arguments data : Array Value) (machine : Machine)
    (known : kindOf ref machine = .done (.value (.native id constructs data) machine))
    (found : Catalog.methods[id]? = some method) (good : Value → Machine → Prop) (bad : Machine → Prop)
    (runs : Ends good bad
      (method.run { this := receiver, arguments, newTarget := .undefined, callee := ref, data } machine)) :
    Ends (fun result after => ∃ before, good result before ∧ after = { before with depth := machine.depth }) bad
      (callValue (.object ref) receiver arguments machine) := by
  have entered : Ends (fun result after => ∃ value, result = .result value ∧ good value after) bad
      (enter enterDepth (.object ref) receiver arguments machine) := by
    change Ends _ _ ((kindOf ref >>= fun kind => _ : Execution Entered) machine)
    rw [bind_value _ _ _ _ _ known]
    refine ends_bind good _ _ _ _ _ ?_ fun result after holds => .value _ after ⟨result, rfl, holds⟩
    rw [runNative, found]
    exact runs
  change Ends _ _ ((enter enterDepth (.object ref) receiver arguments >>= fun entered =>
    finishEntered entered >>= fun value =>
      modify (fun after => { after with depth := machine.depth }) >>= fun _ => pure value) machine)
  refine ends_bind _ _ _ _ _ machine entered ?_
  rintro result after ⟨value, rfl, holds⟩
  exact .value value _ ⟨after, holds, rfl⟩

theorem ends_call (methods : Array Method) (depth : Nat) (method : Method) (function receiver : Value)
    (arguments : Array Value) (machine : Machine) (native : IsNative methods machine.heap method function)
    (good : Value → Machine → Prop) (bad : Machine → Prop)
    (runs : ∀ callee data, Ends good bad (@Method.run method (engine methods depth)
      { this := receiver, arguments, newTarget := .undefined, callee, data } machine)) :
    Ends (fun result after => ∃ before, good result before ∧ after = { before with depth := machine.depth }) bad
      (@call (engine methods (depth + 1)) function receiver arguments machine) := by
  obtain ⟨ref, id, constructs, data, rfl, found, known⟩ := kindOf_native methods machine.heap method function native
  exact @ends_callValue (engine methods depth) ⟨methods⟩ method ref id constructs receiver arguments data machine
    (known machine rfl) found good bad (runs ref data)

/-! ### Primitive values -/

/-- What a conversion to a primitive value of an object of the host may give. -/
def Simple : Value → Prop
  | .symbol _ => False
  | .bigint _ => False
  | .object _ => False
  | .absent => False
  | _ => True

/-- The functions of the prototypes that give the text of an object or the object itself. -/
def IsConverter (methods : Array Method) (realm : Array Object) (value : Value) : Prop :=
  IsNative methods realm Library.objectTextMethod value ∨ IsNative methods realm Library.arrayTextMethod value ∨
    IsNative methods realm Library.objectValueMethod value

def ConvertersKeep (methods : Array Method) (realm : Array Object) (top : Ref) [Engine] : Prop :=
  ∀ function ref, IsConverter methods realm function → Tame realm top ref →
    Keeps realm top (fun result => Simple result ∨ result.isObject = true) (call function (.object ref) #[])

theorem harmless_datum (methods : Array Method) (realm : Array Object) (top : Ref) (key : Key) (value : Value)
    (harmless : Harmless methods realm top key value) (unnamed : ∀ text, key ≠ .name text) :
    IsDatum realm.size top value := by
  have named (text : String) (known : Key.ofString text = .name (Units.ofString text)) : key ≠ Key.ofString text := by
    rw [known]
    exact unnamed _
  obtain datum | ⟨same, -⟩ | ⟨same, -⟩ | ⟨same, -⟩ | ⟨same, -⟩ | ⟨text, same, -⟩ := harmless
  · exact datum
  · exact absurd same (named "toString" toStringKey_eq)
  · exact absurd same (named "valueOf" (by decide +kernel))
  · exact absurd same (named "join" (by decide +kernel))
  · exact absurd same (named "length" (by decide +kernel))
  · exact absurd same (unnamed text)

theorem harmless_converter (methods : Array Method) (realm : Array Object) (top : Ref) (key : Key) (value : Value)
    (asks : key = toStringKey ∨ key = valueOfKey) (harmless : Harmless methods realm top key value) :
    IsDatum realm.size top value ∨ IsConverter methods realm value := by
  obtain datum | ⟨-, text | text⟩ | ⟨-, self⟩ | ⟨same, -⟩ | ⟨same, -⟩ | ⟨text, -, unlisted⟩ := harmless
  · exact .inl datum
  · exact .inr (.inl text)
  · exact .inr (.inr (.inl text))
  · exact .inr (.inr (.inr self))
  · obtain rfl | rfl := asks <;> exact absurd same (by decide +kernel)
  · obtain rfl | rfl := asks <;> exact absurd same (by decide +kernel)
  · obtain rfl | rfl := asks <;> exact absurd unlisted (by decide +kernel)

theorem asked_name (text : String) (known : Key.ofString text = .name (Units.ofString text)) :
    Asked (Key.ofString text) := .inl ⟨_, known⟩

section

variable (methods : Array Method) (realm : Array Object) (top : Ref) [Engine] (untouched : Untouched methods realm)

include untouched

theorem keeps_primitiveUnder (keep : ConvertersKeep methods realm top) (key : Key)
    (asks : key = toStringKey ∨ key = valueOfKey) (ref : Ref) (tame : Tame realm top ref) :
    Keeps realm top (fun found => ∀ result, found = some result → Simple result)
      (primitiveUnder (.object ref) key) := by
  have asked : Asked key := by
    obtain rfl | rfl := asks
    · exact asked_name "toString" toStringKey_eq
    · exact asked_name "valueOf" (by decide +kernel)
  have other : key ≠ protoKey := by obtain rfl | rfl := asks <;> decide +kernel
  refine keeps_bind realm top _ _ _ _ (keeps_get methods realm top untouched key asked other ref tame) ?_
  intro found harmless
  have plain (datum : IsDatum realm.size top found) : Keeps realm top
      (fun found => ∀ result, found = some result → Simple result)
      (isCallable found >>= fun callable => if callable = true then call found (.object ref) #[] >>= fun result =>
        pure (if result.isObject = true then none else some result) else pure none) := by
    refine keeps_bind realm top _ _ _ _ (keeps_isCallable_datum methods realm top untouched found datum) ?_
    rintro callable rfl
    exact keeps_pure realm top _ none nofun
  obtain rfl | harmless := harmless
  · exact keeps_pure realm top _ none nofun
  obtain datum | converter := harmless_converter methods realm top key found asks harmless
  · exact plain datum
  · have callable : Keeps realm top (fun callable => callable = true) (isCallable found) := by
      intro machine furnished
      refine .of_eq _ _ _ true machine ?_ ⟨furnished, rfl⟩
      obtain native | native | native := converter
      all_goals exact isCallable_native methods _ found machine (native.kept methods realm machine.heap top _ found furnished)
    refine keeps_bind realm top _ _ _ _ callable ?_
    rintro callable rfl
    refine keeps_bind realm top _ _ _ _ (keep found ref converter tame) fun result simple => ?_
    refine keeps_pure realm top _ _ fun value same => ?_
    obtain simple | object := simple
    · cases result <;> cases same <;> exact simple
    · rw [if_pos object] at same
      cases same

theorem keeps_getMethod (ref : Ref) (tame : Tame realm top ref) :
    Keeps realm top (fun found => found = none) ((Value.object ref).getMethod WellKnown.toPrimitive.key) := by
  refine keeps_bind realm top _ _ _ _ (keeps_get methods realm top untouched WellKnown.toPrimitive.key
    (.inr (.inr (.inl rfl))) (by decide +kernel) ref tame) fun found harmless => ?_
  obtain rfl | harmless := harmless
  · exact keeps_pure realm top _ none rfl
  have datum := harmless_datum methods realm top _ found harmless nofun
  have refused : Keeps realm top (fun method => method = none) (isCallable found >>= fun callable =>
      if callable = true then pure (some found) else throwType "not a function" : Execution (Option Value)) := by
    refine keeps_bind realm top _ _ _ _ (keeps_isCallable_datum methods realm top untouched found datum) ?_
    rintro callable rfl
    exact keeps_throwNew realm top _ _ _
  cases found with
  | null => exact keeps_pure realm top _ none rfl
  | undefined => exact keeps_pure realm top _ none rfl
  | _ => exact refused

theorem keeps_primitiveEither (keep : ConvertersKeep methods realm top) (ref : Ref) (tame : Tame realm top ref)
    (first second : Key) (asksFirst : first = toStringKey ∨ first = valueOfKey)
    (asksSecond : second = toStringKey ∨ second = valueOfKey) : Keeps realm top Simple
      (primitiveUnder (.object ref) first >>= fun found => match found with
        | some result => pure result
        | none => primitiveUnder (.object ref) second >>= fun found => match found with
          | some result => pure result
          | none => throwType "toPrimitive" : Execution Value) := by
  refine keeps_bind realm top _ _ _ _
    (keeps_primitiveUnder methods realm top untouched keep first asksFirst ref tame) fun found simple => ?_
  cases found with
  | some result => exact keeps_pure realm top _ result (simple result rfl)
  | none =>
    refine keeps_bind realm top _ _ _ _
      (keeps_primitiveUnder methods realm top untouched keep second asksSecond ref tame) fun found simple => ?_
    cases found with
    | some result => exact keeps_pure realm top _ result (simple result rfl)
    | none => exact keeps_throwNew realm top _ _ _

theorem keeps_toPrimitive (keep : ConvertersKeep methods realm top) (value : Value)
    (datum : IsDatum realm.size top value) (hint : Hint) : Keeps realm top Simple (value.toPrimitive hint) := by
  cases value with
  | object ref =>
    have tame : Tame realm top ref := .inr (.inr datum)
    have both := keeps_primitiveEither methods realm top untouched keep ref tame
    refine keeps_bind realm top _ _ _ _ (keeps_getMethod methods realm top untouched ref tame) ?_
    rintro found rfl
    cases hint with
    | text => exact both toStringKey valueOfKey (.inl rfl) (.inr rfl)
    | any => exact both valueOfKey toStringKey (.inr rfl) (.inl rfl)
    | number => exact both valueOfKey toStringKey (.inr rfl) (.inl rfl)
  | symbol id => exact datum.elim
  | bigint n => exact datum.elim
  | absent => exact datum.elim
  | undefined => exact datum.elim
  | _ => exact keeps_pure realm top _ _ trivial

theorem keeps_toUnits (keep : ConvertersKeep methods realm top) (value : Value)
    (datum : IsDatum realm.size top value) : Keeps realm top (fun _ => True) value.toUnits := by
  cases value with
  | object ref =>
    refine keeps_bind realm top _ _ _ _
      (keeps_toPrimitive methods realm top untouched keep (.object ref) datum .text) fun result simple => ?_
    cases result with
    | symbol id => exact simple.elim
    | _ => exact keeps_pure realm top _ _ trivial
  | symbol id => exact datum.elim
  | _ => exact keeps_pure realm top _ _ trivial

theorem keeps_toFloat (keep : ConvertersKeep methods realm top) (value : Value)
    (datum : IsDatum realm.size top value) : Keeps realm top (fun _ => True) value.toFloat := by
  have number (value : Value) (simple : Simple value) :
      Keeps realm top (fun _ => True) (Value.primitiveNumber value) := by
    cases value with
    | boolean b => cases b <;> exact keeps_pure realm top _ _ trivial
    | symbol id => exact simple.elim
    | bigint n => exact simple.elim
    | object ref => exact simple.elim
    | _ => exact keeps_pure realm top _ _ trivial
  refine keeps_bind realm top (fun _ => True) _ _ _ ?_ fun _ _ => keeps_pure realm top _ _ trivial
  cases value with
  | object ref =>
    exact keeps_bind realm top _ _ _ _
      (keeps_toPrimitive methods realm top untouched keep (.object ref) datum .number) number
  | symbol id => exact datum.elim
  | bigint n => exact datum.elim
  | absent => exact datum.elim
  | undefined => exact datum.elim
  | integer n => exact keeps_pure realm top _ _ trivial
  | number x => exact keeps_pure realm top _ _ trivial
  | null => exact number .null trivial
  | boolean b => exact number (.boolean b) trivial
  | text content => exact number (.text content) trivial

theorem keeps_toLength (keep : ConvertersKeep methods realm top) (value : Value)
    (number : value = .undefined ∨ IsDatum realm.size top value ∨ ∃ n : Nat, value = .ofNat n) :
    Keeps realm top (fun _ => True) value.toLength := by
  have measured (value : Value) (float : Keeps realm top (fun _ => True) value.toFloat) :
      Keeps realm top (fun _ => True) (value.toFloat >>= fun x =>
        if (x.toBits == 0x7FF0000000000000) = true then pure Value.longest
        else pure (min (Number.truncate x).toNat Value.longest) : Execution Nat) := by
    refine keeps_bind realm top _ _ _ _ float fun x _ => ?_
    split <;> exact keeps_pure realm top _ _ trivial
  obtain rfl | datum | ⟨n, rfl⟩ := number
  · exact measured .undefined fun machine furnished => .value _ machine ⟨furnished, trivial⟩
  · have float := keeps_toFloat methods realm top untouched keep value datum
    cases value with
    | integer n => exact keeps_pure realm top _ _ trivial
    | _ => exact measured _ float
  · rw [Value.ofNat, Value.ofInt]
    split
    · exact keeps_pure realm top _ _ trivial
    · exact measured _ fun machine furnished => .value _ machine ⟨furnished, trivial⟩

theorem keeps_lengthOf (keep : ConvertersKeep methods realm top) (ref : Ref) (tame : Tame realm top ref) :
    Keeps realm top (fun _ => True) (lengthOf (.object ref)) := by
  refine keeps_bind realm top _ _ _ _ (keeps_get methods realm top untouched lengthKey
    (asked_name "length" (by decide +kernel)) (by decide +kernel) ref tame) fun found harmless => ?_
  refine keeps_toLength methods realm top untouched keep found ?_
  obtain undefined | datum | ⟨same, -⟩ | ⟨same, -⟩ | ⟨same, -⟩ | ⟨-, length⟩ | ⟨text, -, unlisted⟩ := harmless
  · exact .inl undefined
  · exact .inr (.inl datum)
  · exact absurd same (by decide +kernel)
  · exact absurd same (by decide +kernel)
  · exact absurd same (by decide +kernel)
  · exact .inr (.inr length)
  · exact absurd unlisted (by decide +kernel)

theorem keeps_element (index : Nat) (ref : Ref) (tame : Tame realm top ref) :
    Keeps realm top (fun found => found = .undefined ∨ IsDatum realm.size top found)
      ((Value.object ref).get (.index index)) := by
  intro machine furnished
  refine (keeps_get methods realm top untouched (.index index) (.inr (.inl ⟨index, rfl⟩)) ?_ ref tame machine
    furnished).weaken _ _ _ _ _ ?_ fun _ fails => fails
  · rw [protoKey_eq]
    nofun
  · rintro found after ⟨kept, undefined | harmless⟩
    · exact ⟨kept, .inl undefined⟩
    · exact ⟨kept, .inr (harmless_datum methods realm top _ found harmless nofun)⟩

theorem keeps_tagged (ref : Ref) (tame : Tame realm top ref) (builtin : String) : Keeps realm top (fun _ => True)
    ((Value.object ref).get WellKnown.toStringTag.key >>= fun tag => match tag with
      | .text tag => pure (Units.ofString "[object " ++ tag ++ Units.ofString "]")
      | _ => pure (Units.ofString "[object " ++ Units.ofString builtin ++ Units.ofString "]")) := by
  have tagged := keeps_get methods realm top untouched WellKnown.toStringTag.key (.inr (.inr (.inr rfl)))
    (by decide +kernel) ref tame
  refine keeps_bind realm top _ _ _ _ tagged fun tag _ => ?_
  cases tag <;> exact keeps_pure realm top _ _ trivial

theorem keeps_objectText (ref : Ref) (tame : Tame realm top ref) :
    Keeps realm top (fun _ => True) (Library.objectText (.object ref)) := by
  refine keeps_bind realm top _ _ _ _ (keeps_pure realm top (fun found => found = ref) ref rfl) ?_
  rintro found rfl
  have wrapped := keeps_tagged methods realm top untouched found tame
  refine keeps_bind realm top _ _ _ _ (keeps_isArray methods realm top untouched found tame) fun array _ => ?_
  cases array with
  | true => exact wrapped "Array"
  | false => exact keeps_bind realm top _ _ _ _ (keeps_kindOf methods realm top untouched found tame) fun kind _ =>
      wrapped (Library.tagOf kind)

theorem keeps_joinElements (keep : ConvertersKeep methods realm top) (walk : Library.Walk) (separator : Units)
    (object : walk.object = .object walk.ref) (tame : Tame realm top walk.ref) :
    Keeps realm top (fun _ => True) (Library.joinElements walk separator) := by
  refine keeps_iterate realm top (fun _ => True) _ _ _ _ trivial fun (index, done) _ => ?_
  by_cases more : index < walk.length
  · simp only [if_pos more]
    refine Keeps.weaken realm top _ (fun _ => True) _ ?_ fun next _ => by cases next <;> trivial
    have element := keeps_element methods realm top untouched index walk.ref tame
    rw [← object] at element
    refine keeps_bind realm top _ _ _ _ element fun found known => ?_
    have joined (text done : Units) : Keeps realm top (fun _ => True)
        (if longestText < done.size + text.size then
          throwNew .internalError "string too long" >>= fun _ : Unit =>
            if 1024 ≤ text.size + separator.size then charge (text.size + separator.size) >>= fun _ =>
              pure (.inl (index + 1, done ++ text))
            else pure (.inl (index + 1, done ++ text))
        else if 1024 ≤ text.size + separator.size then charge (text.size + separator.size) >>= fun _ =>
          pure (.inl (index + 1, done ++ text))
        else pure (.inl (index + 1, done ++ text)) : Execution (Nat × Units ⊕ Units)) := by
      have added : Keeps realm top (fun _ => True)
          (if 1024 ≤ text.size + separator.size then charge (text.size + separator.size) >>= fun _ =>
            pure (.inl (index + 1, done ++ text))
          else pure (.inl (index + 1, done ++ text)) : Execution (Nat × Units ⊕ Units)) := by
        by_cases long : 1024 ≤ text.size + separator.size
        · rw [if_pos long]
          exact keeps_bind realm top _ _ _ _ (keeps_charge realm top _) fun _ _ => keeps_pure realm top _ _ trivial
        · rw [if_neg long]
          exact keeps_pure realm top _ _ trivial
      by_cases long : longestText < done.size + text.size
      · rw [if_pos long]
        exact keeps_bind realm top _ _ _ _ (keeps_throwNew realm top (fun _ => True) _ _) fun _ _ => added
      · rw [if_neg long]
        exact added
    have converted (value : Value) (datum : IsDatum realm.size top value) := keeps_bind realm top _ _ _ _
      (keeps_toUnits methods realm top untouched keep value datum) fun text _ =>
        joined text (if index = 0 then done else done ++ separator)
    obtain rfl | datum := known
    · exact joined #[] _
    · cases found with
      | undefined => exact joined #[] _
      | null => exact joined #[] _
      | _ => exact converted _ datum
  · simp only [if_neg more]
    exact keeps_pure realm top _ _ trivial

theorem keeps_arrayToString (keep : ConvertersKeep methods realm top) (called : Call) (ref : Ref)
    (receiver : called.this = .object ref) (tame : Tame realm top ref) :
    Keeps realm top (fun result => Simple result) (Library.arrayToString called) := by
  have usual : Keeps realm top (fun result => Simple result)
      (Library.objectText (.object ref) >>= fun text => pure (Value.text text)) :=
    keeps_bind realm top _ _ _ _ (keeps_objectText methods realm top untouched ref tame) fun text _ =>
      keeps_pure realm top _ _ trivial
  have walked : Keeps realm top (fun walk : Library.Walk => walk.ref = ref ∧ walk.object = .object ref)
      (Library.walkOf (.object ref)) := by
    change Keeps realm top _ (lengthOf (.object ref) >>= fun length => _)
    refine keeps_bind realm top _ _ _ _ (keeps_lengthOf methods realm top untouched keep ref tame) fun length _ => ?_
    exact keeps_pure realm top _ ({ object := .object ref, ref, length } : Library.Walk) ⟨rfl, rfl⟩
  have joined : Keeps realm top (fun result => Simple result) (Library.walkOf (.object ref) >>= fun walk =>
      Library.joinElements walk (Units.ofString ",") >>= fun text => newText text) := by
    refine keeps_bind realm top _ _ _ _ walked ?_
    rintro walk ⟨rfl, object⟩
    refine keeps_bind realm top _ _ _ _
      (keeps_joinElements methods realm top untouched keep walk (Units.ofString ",") object tame) fun text _ => ?_
    refine Keeps.weaken realm top _ _ _ (keeps_newText realm top text) ?_
    rintro result rfl
    trivial
  have read := keeps_get methods realm top untouched joinKey (asked_name "join" (by decide +kernel))
    (by decide +kernel) ref tame
  unfold Library.arrayToString
  rw [receiver]
  refine keeps_bind realm top _ _ _ _ (keeps_pure realm top (fun found => found = ref) ref rfl) ?_
  rintro found rfl
  refine keeps_bind realm top _ _ _ _ read fun join harmless => ?_
  by_cases same : Value.same join Intrinsic.arrayJoin.value = true
  · rw [if_pos same]
    exact joined
  · rw [if_neg same]
    have refused : Keeps realm top (fun callable => callable = false) (isCallable join) := by
      obtain rfl | datum | ⟨other, -⟩ | ⟨other, -⟩ | ⟨-, rfl⟩ | ⟨other, -⟩ | ⟨text, -, unlisted⟩ := harmless
      · exact keeps_pure realm top _ false rfl
      · exact keeps_isCallable_datum methods realm top untouched join datum
      · exact absurd other (by decide +kernel)
      · exact absurd other (by decide +kernel)
      · exact absurd (beq_self_eq_true _) same
      · exact absurd other (by decide +kernel)
      · exact absurd unlisted (by decide +kernel)
    refine keeps_bind realm top _ _ _ _ refused ?_
    rintro callable rfl
    exact usual

end

/-- However deeply functions of the library may still call each other, the ones that conversions call keep the
objects of the host. -/
theorem convertersKeep (methods : Array Method) (realm : Array Object) (top : Ref)
    (untouched : Untouched methods realm) (depth : Nat) :
    @ConvertersKeep methods realm top (engine methods depth) := by
  induction depth with
  | zero => exact fun function ref _ _ => keeps_throwNew realm top _ _ _
  | succ depth ih =>
    intro function ref converter tame machine furnished
    have ran (method : Method) (native : IsNative methods realm method function)
        (runs : ∀ callee data, Keeps realm top (fun result => Simple result ∨ result.isObject = true)
          (@Method.run method (engine methods depth)
            { this := .object ref, arguments := #[], newTarget := .undefined, callee, data })) :
        Ends (fun result after => Furnished realm after.heap top ∧ (Simple result ∨ result.isObject = true))
          (fun after => Furnished realm after.heap top)
          (@call (engine methods (depth + 1)) function (.object ref) #[] machine) := by
      refine (ends_call methods depth method function (.object ref) #[] machine
        (native.kept methods realm machine.heap top method function furnished) _ _
        fun callee data => runs callee data machine furnished).weaken _ _ _ _ _ ?_ fun _ kept => kept
      rintro result after ⟨before, ⟨kept, simple⟩, rfl⟩
      exact ⟨kept, simple⟩
    obtain native | native | native := converter
    · refine ran Library.objectTextMethod native fun callee data => ?_
      exact keeps_bind realm top _ _ _ _
        (@keeps_objectText methods realm top (engine methods depth) untouched ref tame) fun text _ =>
          keeps_pure realm top _ (Value.text text) (.inl trivial)
    · refine ran Library.arrayTextMethod native fun callee data => ?_
      exact Keeps.weaken realm top _ _ _
        (@keeps_arrayToString methods realm top (engine methods depth) untouched ih _ ref rfl tame) fun _ => .inl
    · refine ran Library.objectValueMethod native fun callee data => ?_
      exact keeps_pure realm top _ (Value.object ref) (.inr rfl)

end ScriptSandbox.Script
