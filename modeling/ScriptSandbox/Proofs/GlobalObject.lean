import ScriptSandbox.Proofs.Refusal
import ScriptSandbox.Proofs.Representation

/-!
Assignments to the global object, as the host makes them to define variables. A property that is not there is made and
one that is there is changed, unless the property or the object refuses; then an error is made and nothing else happens.
-/

namespace ScriptSandbox.Script

open Execution

/-- The global object as a realm makes it, with any properties; under a key it has no functions. -/
structure PlainGlobal (heap : Array Object) (key : Key) (object : Object) : Prop where
  there : heap[Intrinsic.global.ref]? = some object
  kind : object.kind = .global
  parent : object.parent = some Intrinsic.objectPrototype.ref
  sound : object.properties.Sound
  plain : ∀ property, object.properties.find? key = some property → ∃ old, property.content = .value old

def Object.Takes (object : Object) (key : Key) : Prop :=
  match object.properties.find? key with
  | some property => property.writable = true
  | none => object.extensible = true

section

variable (heap : Array Object) (key : Key) (object : Object) (global : PlainGlobal heap key object)

include global

theorem own_global : ownProperty? heap object key = object.properties.find? key := by
  unfold ownProperty?
  rw [global.kind]

theorem lookup_global (steps : Nat) : lookup heap key (steps + 1) Intrinsic.global.ref =
    match object.properties.find? key with
    | some property => .property property Intrinsic.global.ref
    | none => lookup heap key steps Intrinsic.objectPrototype.ref := by
  have own := own_global heap key object global
  have parent := global.parent
  rw [lookup, global.there]
  obtain ⟨_, _, extensible, properties⟩ := object
  cases global.kind
  cases parent
  dsimp only
  cases found : properties.find? key <;> rw [own.trans found]

theorem free_global (methods : Array Method) (untouched : Untouched methods heap) (text : Units) (named : key = .name text)
    (other : key ≠ protoKey) (missing : object.properties.find? key = none) :
    lookup heap key longestChain Intrinsic.global.ref = .missing ∨ ∃ property holder old,
      lookup heap key longestChain Intrinsic.global.ref = .property property holder ∧ property.content = .value old ∧
        property.writable = true ∧ holder ≠ Intrinsic.global.ref := by
  obtain ⟨extensible, properties, there, table⟩ := untouched.object
  have looked : lookup heap key longestChain Intrinsic.global.ref = match properties.find? key with
      | some property => .property property Intrinsic.objectPrototype.ref
      | none => .missing := by
    rw [longestChain, lookup_global heap key object global 99999, missing]
    change lookup heap key (99998 + 1) Intrinsic.objectPrototype.ref = _
    have above := lookup_of_there heap key 99998 _ _ there (.inl rfl)
    rw [own_ordinary heap _ key rfl] at above
    exact above
  rw [looked]
  cases found : properties.find? key with
  | none => exact .inl rfl
  | some property =>
    subst named
    obtain ⟨writable, old, content⟩ := table.plain text property other found
    exact .inr ⟨property, _, old, rfl, content, writable, by decide⟩

end

section

variable (machine : Machine) (key : Key) (object : Object) (global : PlainGlobal machine.heap key object)

include global

theorem typedArrayAt_global : typedArrayAt Intrinsic.global.ref machine = .done (.value none machine) := by
  rw [typedArrayAt_eq Intrinsic.global.ref object machine global.there, global.kind]

theorem writingOf_global : writingOf machine.heap Intrinsic.global.ref key =
    match object.properties.find? key with
    | some property => if property.writable = true then .changed else .refused .readOnly
    | none => if object.extensible = true then .added else .refused .notExtensible := by
  unfold writingOf
  rw [Array.getD_eq_getD_getElem?, global.there, Option.getD_some]
  dsimp only
  rw [own_global machine.heap key object global, global.kind]
  cases found : object.properties.find? key with
  | none => cases object.extensible <;> rfl
  | some property =>
    obtain ⟨old, content⟩ := global.plain property found
    obtain ⟨_, writable, enumerable, configurable⟩ := property
    cases content
    cases writable <;> rfl

variable [Engine] (methods : Array Method) (untouched : Untouched methods machine.heap) (text : Units)
  (named : key = .name text) (other : key ≠ protoKey) (value : Value)

include untouched named other

theorem set_global : Intrinsic.global.ref.set key value machine =
    (match object.properties.find? key with
      | some property =>
        if property.writable = true then storeValue Intrinsic.global.ref key value >>= fun _ => pure none
        else pure (some .readOnly)
      | none =>
        if object.extensible = true then storeProperty Intrinsic.global.ref key (.plain value) >>= fun _ => pure none
        else pure (some .notExtensible) : Execution (Option Refusal)) machine := by
  have typed := typedArrayAt_global machine key object global
  have writing := writingOf_global machine key object global
  cases found : object.properties.find? key with
  | none =>
    have free := free_global machine.heap key object global methods untouched text named other found
    refine (setFrom_writes key value Intrinsic.global.ref machine 999 typed free).trans ?_
    rw [found] at writing
    dsimp only at writing ⊢
    by_cases extensible : object.extensible = true
    · rw [if_pos extensible] at writing ⊢
      exact writeReceiver_added key value Intrinsic.global.ref machine writing
    · rw [if_neg extensible] at writing ⊢
      exact writeReceiver_refused key value Intrinsic.global.ref machine .notExtensible writing
  | some property =>
    obtain ⟨old, content⟩ := global.plain property found
    have looked : lookup machine.heap key longestChain Intrinsic.global.ref = .property property Intrinsic.global.ref := by
      rw [longestChain, lookup_global machine.heap key object global 99999, found]
    rw [found] at writing
    dsimp only at writing ⊢
    by_cases writable : property.writable = true
    · rw [if_pos writable] at writing ⊢
      refine (setFrom_value key value Intrinsic.global.ref machine 999 typed property _ looked old content writable).trans ?_
      rw [if_pos rfl]
      split
      · exact writeReceiver_changed key value Intrinsic.global.ref machine writing
      · rfl
    · rw [if_neg writable]
      exact setFrom_readOnly key value Intrinsic.global.ref machine 999 typed property _ looked old content
        (Bool.eq_false_iff.2 writable)

/-- An assignment that the global object takes: the value is under the key, and everything else as it was. -/
structure Put (before after : Machine) (key : Key) (object : Object) (value : Value) (changed : Object) : Prop where
  heap : Changes before.heap after.heap Intrinsic.global.ref changed
  fixed : SameVariables before after
  global : PlainGlobal after.heap key changed
  holds : ∃ property, changed.properties.find? key = some property ∧ property.content = .value value
  others : ∀ other ≠ key, changed.properties.find? other = object.properties.find? other

theorem put_missing (missing : object.properties.find? key = none) (extensible : object.extensible = true) :
    ∃ after changed, Intrinsic.global.ref.put key value machine = .done (.value () after) ∧
      Put machine after key object value changed := by
  have set_ := set_global machine key object global methods untouched text named other value
  rw [missing] at set_
  dsimp only at set_
  rw [if_pos extensible] at set_
  have changes := changes_modify machine.heap Intrinsic.global.ref object (·.store key (.plain value)) global.there
  rw [store_of_table object key (.plain value) (.inr global.kind)] at changes
  have holds (other : Key) := object.properties.find?_insert key other (.plain value) global.sound
  have here := (holds key).trans (if_pos rfl)
  have sound := object.properties.sound_insert key (.plain value) global.sound
  refine ⟨_, _, put_of_set key value _ machine _ set_, changes, ⟨rfl, rfl⟩,
    ⟨changes.here, global.kind, global.parent, sound, fun property found => ?_⟩, ⟨_, here, rfl⟩,
    fun other different => (holds other).trans (if_neg different.symm)⟩
  rw [here] at found
  cases found
  exact ⟨value, rfl⟩

theorem put_found (property : Property) (found : object.properties.find? key = some property)
    (writable : property.writable = true) :
    ∃ after changed, Intrinsic.global.ref.put key value machine = .done (.value () after) ∧
      Put machine after key object value changed := by
  have set_ := set_global machine key object global methods untouched text named other value
  rw [found] at set_
  dsimp only at set_
  rw [if_pos writable] at set_
  obtain ⟨position, placed⟩ : ∃ position, object.properties.position? key = some position := by
    cases placed : object.properties.position? key with
    | some position => exact ⟨position, rfl⟩
    | none =>
      rw [Properties.find?_eq, placed] at found
      cases found
  have changes := changes_modify machine.heap Intrinsic.global.ref object (·.storeValue key value) global.there
  rw [storeValue_of_table object key value position (.inr global.kind) placed] at changes
  obtain ⟨sound, holds⟩ := object.properties.setValueAt_of_some key value position global.sound placed
  have here := (holds key).trans (if_pos rfl)
  rw [found] at here
  refine ⟨_, _, put_of_set key value _ machine _ set_, changes, ⟨rfl, rfl⟩,
    ⟨changes.here, global.kind, global.parent, sound, fun other found => ?_⟩, ⟨_, here, rfl⟩,
    fun other different => (holds other).trans (if_neg different.symm)⟩
  rw [here] at found
  cases found
  exact ⟨value, rfl⟩

theorem put_takes (takes : object.Takes key) : ∃ after changed,
    Intrinsic.global.ref.put key value machine = .done (.value () after) ∧ Put machine after key object value changed := by
  unfold Object.Takes at takes
  cases found : object.properties.find? key with
  | none =>
    rw [found] at takes
    exact put_missing machine key object global methods untouched text named other value found takes
  | some property =>
    rw [found] at takes
    exact put_found machine key object global methods untouched text named other value property found takes

/-- An assignment that it does not take makes an error and does nothing else. -/
theorem put_refused (refuses : ¬ object.Takes key) : ∃ message, Intrinsic.global.ref.put key value machine =
    .done (.thrown (.object machine.heap.size) (machine.withError .typeError message)) := by
  have set_ := set_global machine key object global methods untouched text named other value
  unfold Object.Takes at refuses
  cases found : object.properties.find? key with
  | none =>
    rw [found] at refuses set_
    dsimp only at refuses set_
    rw [if_neg refuses] at set_
    rw [put_of_refused key value _ machine machine .notExtensible set_]
    exact ⟨_, rfl⟩
  | some property =>
    rw [found] at refuses set_
    dsimp only at refuses set_
    rw [if_neg refuses] at set_
    rw [put_of_refused key value _ machine machine .readOnly set_]
    exact ⟨_, rfl⟩

end

end ScriptSandbox.Script
