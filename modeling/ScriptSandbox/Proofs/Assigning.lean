import ScriptSandbox.Proofs.Coercion
import ScriptSandbox.Proofs.PropertyNames

/-!
Assignments to the objects of a host while it makes them. None of them fails, and each changes only the object
that it is made to. A name that the prototypes know leads to a new property all the same; only the name of the
parent calls a function of the library, which gives the object another parent.
-/

namespace ScriptSandbox.Script

open Execution

/-! ### Changing one object -/

/-- One object of a heap is another one afterwards, and all others are the same. -/
structure Changes (before after : Array Object) (ref : Ref) (object : Object) : Prop where
  size : after.size = before.size
  here : after[ref]? = some object
  others : ∀ other ≠ ref, after[other]? = before[other]?

theorem changes_modify (heap : Array Object) (ref : Ref) (object : Object) (change : Object → Object)
    (there : heap[ref]? = some object) : Changes heap (heap.modify ref change) ref (change object) := by
  refine ⟨Array.size_modify, ?_, fun other different => ?_⟩
  · rw [Array.getElem?_modify, if_pos rfl, there]
    rfl
  · rw [Array.getElem?_modify, if_neg different.symm]

def SameVariables (before after : Machine) : Prop := after.globals = before.globals ∧ after.cells = before.cells

theorem SameVariables.trans (first middle last : Machine) (before : SameVariables first middle)
    (after : SameVariables middle last) : SameVariables first last :=
  ⟨after.1.trans before.1, after.2.trans before.2⟩

theorem furnished_changes (realm before after : Array Object) (ref : Ref) (object : Object)
    (furnished : Furnished realm before before.size) (low : realm.size ≤ ref)
    (changes : Changes before after ref object) (datum : IsDatumObject realm.size before.size ref object) :
    Furnished realm after after.size := by
  rw [changes.size]
  refine ⟨⟨furnished.bound.1, Nat.le_of_eq changes.size.symm⟩, fun other less => ?_, fun other least greatest => ?_⟩
  · rw [changes.others other (Nat.ne_of_lt (Nat.lt_of_lt_of_le less low))]
    exact furnished.kept other less
  · by_cases same : other = ref
    · subst same
      exact ⟨object, changes.here, datum⟩
    · rw [changes.others other same]
      exact furnished.data other least greatest

theorem datum_of_there (realm heap : Array Object) (ref : Ref) (object : Object) (furnished : Furnished realm heap heap.size)
    (low : realm.size ≤ ref) (there : heap[ref]? = some object) : IsDatumObject realm.size heap.size ref object := by
  obtain ⟨other, there', datum⟩ := furnished.data ref low (lt_of_there heap ref object there)
  rw [there] at there'
  rw [Option.some.inj there']
  exact datum

/-! ### What an assignment comes to -/

theorem own_of_lookup (heap : Array Object) (key : Key) (steps : Nat) (ref holder : Ref) (property : Property)
    (found : lookup heap key steps ref = .property property holder) :
    ∃ object, heap[holder]? = some object ∧ ownProperty? heap object key = some property := by
  induction steps generalizing ref with
  | zero => cases found
  | succ steps ih =>
    rw [lookup] at found
    cases there : heap[ref]? with
    | none =>
      rw [there] at found
      cases found
    | some object =>
      rw [there] at found
      dsimp only at found
      split at found
      · cases found
      · split at found
        next own =>
          cases found
          exact ⟨object, there, own⟩
        · split at found
          · exact ih _ found
          · cases found

section

variable [Engine] (key : Key) (value : Value) (ref : Ref) (machine : Machine)

theorem writeReceiver_refused (refusal : Refusal) (writes : writingOf machine.heap ref key = .refused refusal) :
    writeReceiver key value ref machine = .done (.value (some refusal) machine) :=
  bind_gets (fun machine => writingOf machine.heap ref key) _ machine _ writes

theorem writeReceiver_changed (writes : writingOf machine.heap ref key = .changed) :
    writeReceiver key value ref machine =
      (storeValue ref key value >>= fun _ => pure none : Execution (Option Refusal)) machine :=
  bind_gets (fun machine => writingOf machine.heap ref key) _ machine _ writes

theorem writeReceiver_added (writes : writingOf machine.heap ref key = .added) :
    writeReceiver key value ref machine =
      (storeProperty ref key (.plain value) >>= fun _ => pure none : Execution (Option Refusal)) machine :=
  bind_gets (fun machine => writingOf machine.heap ref key) _ machine _ writes

theorem put_of_set (after : Machine) (set_ : ref.set key value machine = .done (.value none after)) :
    ref.put key value machine = .done (.value () after) :=
  bind_value (ref.set key value) _ machine after none set_

theorem put_of_refused (after : Machine) (refusal : Refusal)
    (set_ : ref.set key value machine = .done (.value (some refusal) after)) :
    ref.put key value machine = refuse key refusal after :=
  bind_value (ref.set key value) _ machine after (some refusal) set_

variable (depth : Nat) (typed : typedArrayAt ref machine = .done (.value none machine))

include typed

theorem setFrom_missing (missing : lookup machine.heap key longestChain ref = .missing) :
    setFrom key value (.object ref) (depth + 1) ref machine = writeReceiver key value ref machine := by
  refine (bind_value (typedArrayAt ref) _ machine machine none typed).trans ?_
  exact bind_gets (fun machine => lookup machine.heap key longestChain ref) _ machine _ missing

variable (property : Property) (holder : Ref)
  (found : lookup machine.heap key longestChain ref = .property property holder)

include found

theorem setFrom_readOnly (old : Value) (content : property.content = .value old) (fixed : property.writable = false) :
    setFrom key value (.object ref) (depth + 1) ref machine = .done (.value (some .readOnly) machine) := by
  refine (bind_value (typedArrayAt ref) _ machine machine none typed).trans ?_
  refine (bind_gets (fun machine => lookup machine.heap key longestChain ref) _ machine _ found).trans ?_
  simp only [content, fixed, Bool.not_false, if_true]
  rfl

theorem setFrom_value (old : Value) (content : property.content = .value old) (writable : property.writable = true) :
    setFrom key value (.object ref) (depth + 1) ref machine =
      (if ref = holder then
        if (key == lengthKey) = true then writeReceiver key value ref
        else storeValue ref key value >>= fun _ => pure none
      else writeReceiver key value ref : Execution (Option Refusal)) machine := by
  refine (bind_value (typedArrayAt ref) _ machine machine none typed).trans ?_
  refine (bind_gets (fun machine => lookup machine.heap key longestChain ref) _ machine _ found).trans ?_
  simp only [content, writable, Bool.not_true, Bool.false_eq_true, if_false]

theorem setFrom_accessor (getter : Value) (setter : Ref) (content : property.content = .accessor getter (.object setter)) :
    setFrom key value (.object ref) (depth + 1) ref machine =
      (discard (call (.object setter) (.object ref) #[value]) >>= fun _ => pure none : Execution (Option Refusal)) machine := by
  refine (bind_value (typedArrayAt ref) _ machine machine none typed).trans ?_
  refine (bind_gets (fun machine => lookup machine.heap key longestChain ref) _ machine _ found).trans ?_
  simp only [content]

omit found

theorem setFrom_writes (free : lookup machine.heap key longestChain ref = .missing ∨ ∃ property holder old,
      lookup machine.heap key longestChain ref = .property property holder ∧ property.content = .value old ∧
        property.writable = true ∧ holder ≠ ref) :
    setFrom key value (.object ref) (depth + 1) ref machine = writeReceiver key value ref machine := by
  obtain missing | ⟨property, holder, old, found, content, writable, other⟩ := free
  · exact setFrom_missing key value ref machine depth typed missing
  · rw [setFrom_value key value ref machine depth typed property holder found old content writable, if_neg other.symm]

end

theorem typedArrayAt_eq (ref : Ref) (object : Object) (machine : Machine) (there : machine.heap[ref]? = some object) :
    typedArrayAt ref machine = .done (.value (match object.kind with
      | .view (some element) buffer offset length => some (element, buffer, offset, length)
      | _ => none) machine) := by
  have same : machine.heap.getD ref default = object := by
    rw [Array.getD_eq_getD_getElem?, there, Option.getD_some]
  rw [← same]
  rfl

theorem typedArrayAt_of_there (ref : Ref) (object : Object) (machine : Machine)
    (there : machine.heap[ref]? = some object)
    (kind : object.kind = .ordinary ∨ ∃ elements length fixedLength, object.kind = .array elements length fixedLength) :
    typedArrayAt ref machine = .done (.value none machine) := by
  rw [typedArrayAt_eq ref object machine there]
  obtain ordinary | ⟨elements, length, fixedLength, array⟩ := kind
  · rw [ordinary]
  · rw [array]

theorem writingOf_of_none (heap : Array Object) (ref : Ref) (key : Key) (object : Object)
    (there : heap[ref]? = some object)
    (kind : object.kind = .ordinary ∨ ∃ elements length, object.kind = .array elements length false)
    (extensible : object.extensible = true) (own : ownProperty? heap object key = none) :
    writingOf heap ref key = .added := by
  unfold writingOf
  rw [Array.getD_eq_getD_getElem?, there, Option.getD_some]
  obtain ordinary | ⟨elements, length, array⟩ := kind
  · simp only [ordinary, own, extensible, Bool.not_true, Bool.false_eq_true, if_false]
  · simp only [array, own, extensible, Bool.not_true, Bool.false_eq_true, if_false]

theorem writingOf_of_plain (heap : Array Object) (ref : Ref) (key : Key) (object : Object) (value : Value)
    (there : heap[ref]? = some object) (kind : object.kind = .ordinary)
    (own : ownProperty? heap object key = some (.plain value)) : writingOf heap ref key = .changed := by
  unfold writingOf
  rw [Array.getD_eq_getD_getElem?, there, Option.getD_some]
  simp only [kind, own, Property.plain]

/-! ### Objects -/

theorem store_of_table (object : Object) (key : Key) (property : Property)
    (kind : object.kind = .ordinary ∨ object.kind = .global) :
    object.store key property = { object with properties := object.properties.insert key property } := by
  obtain ⟨_, parent, extensible, properties⟩ := object
  rcases kind with ordinary | global
  · cases ordinary
    rfl
  · cases global
    rfl

theorem storeValue_of_table (object : Object) (key : Key) (value : Value) (position : Nat)
    (kind : object.kind = .ordinary ∨ object.kind = .global) (found : object.properties.position? key = some position) :
    object.storeValue key value = { object with properties := object.properties.setValueAt position value } := by
  obtain ⟨_, parent, extensible, properties⟩ := object
  rcases kind with ordinary | global
  · cases ordinary
    simp only [Object.storeValue, found]
  · cases global
    simp only [Object.storeValue, found]

/-- An object with the prototype of all objects as its parent has no property of its own by the name of the parent. -/
def Guarded (object : Object) : Prop :=
  object.properties.find? protoKey = none ∨ object.parent ≠ some Intrinsic.objectPrototype.ref

structure Assigned (realm : Array Object) (before after : Machine) (ref : Ref) (object : Object) (key : Key)
    (value : Value) (changed : Object) : Prop where
  heap : Changes before.heap after.heap ref changed
  limit : after.limit = before.limit
  charged : after.charged ≤ before.charged + propertySize
  fixed : SameVariables before after
  kind : changed.kind = .ordinary
  datum : IsDatumObject realm.size before.heap.size ref changed
  plain : key ≠ protoKey → changed.parent = object.parent ∧ ∀ other, changed.properties.find? other =
    if key = other then some (.plain value) else object.properties.find? other
  names : key ≠ protoKey → changed.properties.keys =
    object.properties.keys ++ if (object.properties.find? key).isSome = true then [] else [key]
  others : ∀ other ≠ key, changed.properties.find? other = object.properties.find? other
  guarded : Guarded object → Guarded changed

section

variable (realm : Array Object) (ref : Ref) (object : Object) (key : Key) (value : Value) (machine : Machine)

theorem IsDatumObject.assign (properties : Properties) (top : Ref) (datum : IsDatumObject realm.size top ref object)
    (kind : object.kind = .ordinary) (named : key.isSymbol = false) (simple : IsDatum realm.size top value)
    (sound : properties.Sound) (set_ : ∀ other, properties.find? other =
      if key = other then some (.plain value) else object.properties.find? other) :
    IsDatumObject realm.size top ref { object with properties } := by
  refine ⟨.inl kind, datum.parent, datum.extensible, sound, fun other property found => ?_⟩
  rw [set_ other] at found
  by_cases same : key = other
  · rw [if_pos same] at found
    exact ⟨same ▸ named, value, (Option.some.inj found).symm, simple⟩
  · rw [if_neg same] at found
    exact datum.plain other property found

variable (there : machine.heap[ref]? = some object) (datum : IsDatumObject realm.size machine.heap.size ref object)
  (kind : object.kind = .ordinary) (named : key.isSymbol = false) (simple : IsDatum realm.size machine.heap.size value)

include there datum kind named simple

theorem assigned_new (open_ : ∀ id, key ≠ .secret id) (missing : object.properties.find? key = none)
    (apart : key = protoKey → object.parent ≠ some Intrinsic.objectPrototype.ref) : ∃ after changed,
    storeProperty ref key (.plain value) machine = .done (.value () after) ∧
      Assigned realm machine after ref object key value changed := by
  have set_ (other : Key) : (object.properties.insert key (.plain value)).find? other =
      if key = other then some (.plain value) else object.properties.find? other :=
    object.properties.find?_insert key other _ datum.sound
  refine ⟨_, { object with properties := object.properties.insert key (.plain value) }, rfl, ?_, rfl, Nat.le_refl _,
    ⟨rfl, rfl⟩, kind, ?_, fun _ => ⟨rfl, set_⟩, fun _ => ?_, fun other different => ?_, fun guarded => ?_⟩
  · rw [← store_of_table object key (.plain value) (.inl kind)]
    exact changes_modify machine.heap ref object (·.store key (.plain value)) there
  · exact datum.assign realm ref object key value _ _ kind named simple
      (object.properties.sound_insert key _ datum.sound) set_
  · rw [missing]
    exact object.properties.keys_insert_of_none key _ (object.properties.position?_of_missing key datum.sound missing) open_
  · exact (set_ other).trans (if_neg different.symm)
  · by_cases same : key = protoKey
    · exact .inr (apart same)
    · exact guarded.imp (fun none_ => (set_ protoKey).trans ((if_neg same).trans none_)) id

theorem assigned_again (old : Value) (own : object.properties.find? key = some (.plain old)) : ∃ after changed,
    storeValue ref key value machine = .done (.value () after) ∧
      Assigned realm machine after ref object key value changed := by
  obtain ⟨position, found⟩ : ∃ position, object.properties.position? key = some position := by
    cases found : object.properties.position? key with
    | some position => exact ⟨position, rfl⟩
    | none =>
      rw [Properties.find?_eq, found] at own
      cases own
  obtain ⟨sound, set_⟩ := object.properties.setValueAt_of_some key value position datum.sound found
  have plain (other : Key) : (object.properties.setValueAt position value).find? other =
      if key = other then some (.plain value) else object.properties.find? other := by
    rw [set_ other, own]
    rfl
  refine ⟨_, { object with properties := object.properties.setValueAt position value }, rfl, ?_, rfl, Nat.le_add_right _ _,
    ⟨rfl, rfl⟩, kind, ?_, fun _ => ⟨rfl, plain⟩, fun _ => ?_, fun other different => ?_, fun guarded => ?_⟩
  · rw [← storeValue_of_table object key value position (.inl kind) found]
    exact changes_modify machine.heap ref object (·.storeValue key value) there
  · exact datum.assign realm ref object key value _ _ kind named simple sound plain
  · rw [own, object.properties.keys_setValueAt position value]
    exact (List.append_nil _).symm
  · exact (plain other).trans (if_neg different.symm)
  · by_cases same : key = protoKey
    · rw [Guarded, ← same, own] at guarded
      exact .inr (guarded.resolve_left nofun)
    · exact guarded.imp (fun none_ => (plain protoKey).trans ((if_neg same).trans none_)) id

end

/-! ### The parent -/

theorem ne_prototype (methods : Array Method) (realm : Array Object) (ref : Ref) (untouched : Untouched methods realm)
    (low : realm.size ≤ ref) : Intrinsic.objectPrototype.ref ≠ ref ∧ Intrinsic.arrayPrototype.ref ≠ ref := by
  obtain ⟨_, _, object, -⟩ := untouched.object
  obtain ⟨_, _, array, -⟩ := untouched.array
  exact ⟨Nat.ne_of_lt (Nat.lt_of_lt_of_le (lt_of_there realm _ _ object) low),
    Nat.ne_of_lt (Nat.lt_of_lt_of_le (lt_of_there realm _ _ array) low)⟩

theorem isAmongParents_of_later (methods : Array Method) (realm heap : Array Object) (ref : Ref)
    (untouched : Untouched methods realm) (furnished : Furnished realm heap heap.size) (low : realm.size ≤ ref)
    (steps : Nat) (parent : Option Ref) (above : ∀ other, parent = some other →
      other = Intrinsic.objectPrototype.ref ∨ other = Intrinsic.arrayPrototype.ref ∨ ref < other ∧ other < heap.size) :
    isAmongParents heap ref steps parent = false := by
  induction steps generalizing parent with
  | zero => rfl
  | succ steps ih =>
    cases parent with
    | none => rfl
    | some other =>
      obtain ⟨apart, apart'⟩ := ne_prototype methods realm ref untouched low
      have goes (object : Object) (there : heap[other]? = some object) (different : other ≠ ref)
          (kind : object.kind = .ordinary ∨
            ∃ elements length fixedLength, object.kind = .array elements length fixedLength)
          (next : isAmongParents heap ref steps object.parent = false) :
          isAmongParents heap ref (steps + 1) (some other) = false := by
        rw [isAmongParents, Array.getD_eq_getD_getElem?, there, Option.getD_some, decide_eq_false different,
          Bool.false_or]
        obtain ⟨_, parent, extensible, properties⟩ := object
        obtain rfl | ⟨elements, length, fixedLength, rfl⟩ := kind <;> exact next
      obtain rfl | rfl | ⟨later, below⟩ := above other rfl
      · obtain ⟨extensible, properties, there, -⟩ := untouched.object
        rw [← furnished.kept _ (lt_of_there realm _ _ there)] at there
        exact goes _ there apart (.inl rfl) (ih none nofun)
      · obtain ⟨extensible, properties, there, -⟩ := untouched.array
        rw [← furnished.kept _ (lt_of_there realm _ _ there)] at there
        exact goes _ there apart' (.inr ⟨_, _, _, rfl⟩) (ih _ fun other same => .inl (Option.some.inj same).symm)
      · obtain ⟨object, there, datum⟩ := furnished.data other (Nat.le_of_lt (Nat.lt_of_le_of_lt low later)) below
        refine goes object there (Nat.ne_of_gt later) ?_ (ih object.parent fun next same => ?_)
        · obtain ordinary | ⟨elements, kind, -⟩ := datum.kind
          · exact .inl ordinary
          · exact .inr ⟨_, _, _, kind⟩
        · obtain object | array | ⟨further, within⟩ := datum.parent next same
          · exact .inl object
          · exact .inr (.inl array)
          · exact .inr (.inr ⟨Nat.lt_trans later further, within⟩)

theorem setParent_datum [Engine] (methods : Array Method) (realm : Array Object) (ref : Ref) (object : Object)
    (machine : Machine) (parent : Option Ref) (untouched : Untouched methods realm)
    (furnished : Furnished realm machine.heap machine.heap.size) (low : realm.size ≤ ref)
    (there : machine.heap[ref]? = some object) (datum : IsDatumObject realm.size machine.heap.size ref object)
    (kind : object.kind = .ordinary)
    (above : ∀ other, parent = some other → ref < other ∧ other < machine.heap.size) : ∃ after,
    ref.setParent parent machine = .done (.value true after) ∧
      Changes machine.heap after.heap ref { object with parent } ∧ after.limit = machine.limit ∧
      after.charged = machine.charged ∧ SameVariables machine after := by
  have opened : ref.setParent parent machine = (if object.parent = parent then pure true
      else if (!object.extensible || ref = Intrinsic.objectPrototype.ref) = true then pure false
      else gets (fun machine => isAmongParents machine.heap ref longestChain parent) >>= fun circular =>
        if circular = true then throwType "circular prototype chain"
        else modifyObject ref (fun object => { object with parent }) >>= fun _ => pure true : Execution Bool) machine := by
    have known : objectAt ref machine = .done (.value object machine) := by
      change Dialogue.done (Outcome.value (machine.heap.getD ref default) machine) = _
      rw [Array.getD_eq_getD_getElem?, there, Option.getD_some]
    change (objectAt ref >>= fun object => _ : Execution Bool) machine = _
    rw [bind_value _ _ _ _ object known]
    obtain ⟨_, above, extensible, properties⟩ := object
    subst kind
    rfl
  rw [opened]
  by_cases same : object.parent = parent
  · rw [if_pos same]
    refine ⟨machine, rfl, ⟨rfl, ?_, fun _ _ => rfl⟩, rfl, rfl, rfl, rfl⟩
    rw [there, ← same]
  · have apart : ref ≠ Intrinsic.objectPrototype.ref := (ne_prototype methods realm ref untouched low).1.symm
    have straight := isAmongParents_of_later methods realm machine.heap ref untouched furnished low longestChain parent
      fun other same => .inr (.inr (above other same))
    rw [if_neg same, if_neg (by rw [datum.extensible, decide_eq_false apart]; decide)]
    refine ⟨{ machine with heap := machine.heap.modify ref fun object => { object with parent } }, ?_,
      changes_modify machine.heap ref object (fun object => { object with parent }) there, rfl, rfl, rfl, rfl⟩
    change (if isAmongParents machine.heap ref longestChain parent = true then throwType "circular prototype chain"
      else modifyObject ref (fun object => { object with parent }) >>= fun _ => pure true : Execution Bool) machine = _
    rw [straight]
    rfl

theorem ends_setParent [Engine] (methods : Array Method) (realm : Array Object) (ref : Ref) (object : Object)
    (machine : Machine) (value : Value) (called : Call) (untouched : Untouched methods realm)
    (furnished : Furnished realm machine.heap machine.heap.size) (low : realm.size ≤ ref)
    (there : machine.heap[ref]? = some object) (datum : IsDatumObject realm.size machine.heap.size ref object)
    (kind : object.kind = .ordinary) (receiver : called.this = .object ref) (argument : called.first = value)
    (simple : IsDatum realm.size machine.heap.size value) (later : ∀ other, value = .object other → ref < other) :
    Ends (fun _ after => ∃ changed, Assigned realm machine after ref object protoKey value changed) (fun _ => False)
      (Library.setParent.run called machine) := by
  have moved (parent : Option Ref) (above : ∀ other, parent = some other → ref < other ∧ other < machine.heap.size) :
      Ends (fun _ after => ∃ changed, Assigned realm machine after ref object protoKey value changed) (fun _ => False)
        ((ref.setParent parent >>= fun done => if (!done) = true then
          (throwType "object is not extensible" >>= fun _ : Unit => pure Value.undefined) else pure Value.undefined)
            machine) := by
    obtain ⟨after, ended, changes, limit, charged, fixed⟩ := setParent_datum methods realm ref object machine parent untouched
      furnished low there datum kind above
    rw [bind_value _ _ _ _ true ended]
    refine .value _ after ⟨{ object with parent }, changes, limit, ?_, fixed, kind, ?_, fun other => absurd rfl other,
      fun other => absurd rfl other, fun _ _ => rfl, fun guarded => guarded.imp id fun _ same => ?_⟩
    · rw [charged]
      exact Nat.le_add_right _ _
    · exact ⟨.inl kind, fun other same => .inr (.inr (above other same)), datum.extensible, datum.sound, datum.plain⟩
    · have later := (above _ same).1
      obtain ⟨_, _, prototype, -⟩ := untouched.object
      exact Nat.lt_irrefl _ (Nat.lt_of_lt_of_le (lt_of_there realm _ _ prototype) (Nat.le_trans low (Nat.le_of_lt later)))
  have kept : Ends (fun _ after => ∃ changed, Assigned realm machine after ref object protoKey value changed)
      (fun _ => False) ((pure Value.undefined : Execution Value) machine) :=
    .value _ machine ⟨object, ⟨rfl, there, fun _ _ => rfl⟩, rfl, Nat.le_add_right _ _, ⟨rfl, rfl⟩, kind, datum,
      fun other => absurd rfl other, fun other => absurd rfl other, fun _ _ => rfl, id⟩
  unfold Library.setParent method
  dsimp only
  rw [receiver, argument]
  cases value with
  | object other => exact moved (some other) fun next same => ⟨Option.some.inj same ▸ later other rfl,
      Option.some.inj same ▸ simple.2⟩
  | null => exact moved none nofun
  | _ => exact kept

/-! ### Assignments -/

theorem asked_ofString (text : String) : Asked (.ofString text) := by
  rw [Key.ofString, Key.ofUnits]
  cases Key.indexOf? (Units.ofString text) with
  | none => exact .inl ⟨_, rfl⟩
  | some n => exact .inr (.inl ⟨n, rfl⟩)

theorem set_again [Engine] (ref : Ref) (key : Key) (value old : Value) (machine : Machine) (object : Object)
    (there : machine.heap[ref]? = some object) (kind : object.kind = .ordinary)
    (own : ownProperty? machine.heap object key = some (.plain old)) :
    ref.set key value machine =
      (storeValue ref key value >>= fun _ => pure none : Execution (Option Refusal)) machine := by
  have found : lookup machine.heap key longestChain ref = .property (.plain old) ref := by
    rw [longestChain, lookup_of_there machine.heap key 99999 ref object there (.inl kind), own]
  have written := writeReceiver_changed key value ref machine (writingOf_of_plain machine.heap ref key object old there kind own)
  have typed := typedArrayAt_of_there ref object machine there (.inl kind)
  refine (setFrom_value key value ref machine 999 typed _ ref found old rfl rfl).trans ?_
  rw [if_pos rfl]
  by_cases length : (key == lengthKey) = true
  · rw [if_pos length]
    exact written
  · rw [if_neg length]

theorem ne_holder (ref holder : Ref) (key : Key) (heap : Array Object) (object : Object) (property : Property)
    (there : heap[ref]? = some object) (own : ownProperty? heap object key = none)
    (found : lookup heap key longestChain ref = .property property holder) : holder ≠ ref := by
  rintro rfl
  obtain ⟨other, there', own'⟩ := own_of_lookup heap key longestChain holder holder property found
  rw [there] at there'
  rw [← Option.some.inj there', own] at own'
  cases own'

/-- No function takes care of a key: nothing is found, or a value that can be changed. -/
def Free (heap : Array Object) (key : Key) (ref : Ref) : Prop :=
  lookup heap key longestChain ref = .missing ∨ ∃ property holder old,
    lookup heap key longestChain ref = .property property holder ∧ property.content = .value old ∧
      property.writable = true

theorem free_or_parent (methods : Array Method) (realm heap : Array Object) (key : Key) (ref : Ref)
    (untouched : Untouched methods realm) (furnished : Furnished realm heap heap.size) (asked : Asked key)
    (tame : Tame realm heap.size ref) : Free heap key ref ∨ key = protoKey ∧ ∃ property holder getter setter,
      lookup heap key longestChain ref = .property property holder ∧ property.content = .accessor getter setter ∧
        IsNative methods realm Library.setParent setter := by
  obtain missing | ⟨property, holder, found, readable⟩ :=
    lookup_tame methods realm heap heap.size untouched furnished key asked longestChain ref tame
  · exact .inl (.inl missing)
  · obtain ⟨proto, getter, setter, content, native⟩ | ⟨writable, old, content, -⟩ := readable
    · exact .inr ⟨proto, property, holder, getter, setter, found, content, native⟩
    · exact .inl (.inr ⟨property, holder, old, found, content, writable⟩)

theorem parent_of_free (methods : Array Method) (realm heap : Array Object) (ref : Ref) (object : Object)
    (untouched : Untouched methods realm) (furnished : Furnished realm heap heap.size)
    (there : heap[ref]? = some object) (kind : object.kind = .ordinary)
    (missing : object.properties.find? protoKey = none) (free : Free heap protoKey ref) :
    object.parent ≠ some Intrinsic.objectPrototype.ref := by
  intro above
  obtain ⟨extensible, properties, prototype, table⟩ := untouched.object
  obtain ⟨property, getter, setter, found, content, -⟩ := table.parent
  rw [← furnished.kept _ (lt_of_there realm _ _ prototype)] at prototype
  have looked : lookup heap protoKey longestChain ref = .property property Intrinsic.objectPrototype.ref := by
    rw [longestChain, lookup_of_there heap protoKey 99999 ref object there (.inl kind),
      own_ordinary heap object protoKey kind, missing, above]
    change lookup heap protoKey (99998 + 1) Intrinsic.objectPrototype.ref = _
    rw [lookup_of_there heap protoKey 99998 _ _ prototype (.inl rfl), own_ordinary heap _ protoKey rfl, found]
  rcases free with none_ | ⟨other, holder, old, found', content', -⟩
  · rw [looked] at none_
    cases none_
  · rw [looked] at found'
    cases found'
    rw [content] at content'
    cases content'

theorem set_new [Engine] (ref : Ref) (key : Key) (value : Value) (machine : Machine) (object : Object)
    (there : machine.heap[ref]? = some object)
    (kind : object.kind = .ordinary ∨ ∃ elements length, object.kind = .array elements length false)
    (extensible : object.extensible = true) (own : ownProperty? machine.heap object key = none)
    (free : Free machine.heap key ref) : ref.set key value machine =
      (storeProperty ref key (.plain value) >>= fun _ => pure none : Execution (Option Refusal)) machine := by
  have kinds : object.kind = .ordinary ∨
      ∃ elements length fixedLength, object.kind = .array elements length fixedLength := by
    obtain ordinary | ⟨elements, length, array⟩ := kind
    · exact .inl ordinary
    · exact .inr ⟨elements, length, false, array⟩
  have written : ref.set key value machine = writeReceiver key value ref machine := by
    refine setFrom_writes key value ref machine 999 (typedArrayAt_of_there ref object machine there kinds) ?_
    obtain missing | ⟨property, holder, old, found, content, writable⟩ := free
    · exact .inl missing
    · exact .inr ⟨property, holder, old, found, content, writable,
        ne_holder ref holder key machine.heap object property there own found⟩
  rw [written]
  exact writeReceiver_added key value ref machine
    (writingOf_of_none machine.heap ref key object there kind extensible own)

theorem put_free [Engine] (methods : Array Method) (realm : Array Object) (ref : Ref) (key : Key) (value : Value)
    (machine : Machine) (object : Object) (untouched : Untouched methods realm)
    (furnished : Furnished realm machine.heap machine.heap.size) (low : realm.size ≤ ref)
    (there : machine.heap[ref]? = some object) (kind : object.kind = .ordinary) (named : key.isSymbol = false)
    (open_ : ∀ id, key ≠ .secret id) (simple : IsDatum realm.size machine.heap.size value)
    (missing : object.properties.find? key = none) (free : Free machine.heap key ref) : ∃ after changed,
    ref.put key value machine = .done (.value () after) ∧
      Assigned realm machine after ref object key value changed := by
  have datum := datum_of_there realm machine.heap ref object furnished low there
  have own := (own_ordinary machine.heap object key kind).trans missing
  obtain ⟨after, changed, ended, assigned⟩ :=
    assigned_new realm ref object key value machine there datum kind named simple open_ missing fun same =>
      parent_of_free methods realm machine.heap ref object untouched furnished there kind (same ▸ missing) (same ▸ free)
  refine ⟨after, changed, put_of_set key value ref machine after ?_, assigned⟩
  rw [set_new ref key value machine object there (.inl kind) datum.extensible own free, bind_value _ _ _ _ () ended]
  rfl

theorem ends_set_accessor [Engine] (ref : Ref) (key : Key) (value : Value) (machine : Machine) (object : Object)
    (there : machine.heap[ref]? = some object) (kind : object.kind = .ordinary) (property : Property)
    (holder setter : Ref) (getter : Value)
    (found : lookup machine.heap key longestChain ref = .property property holder)
    (content : property.content = .accessor getter (.object setter)) (good : Machine → Prop) (bad : Machine → Prop)
    (called : Ends (fun _ after => good after) bad (call (.object setter) (.object ref) #[value] machine)) :
    Ends (fun refusal after => refusal = none ∧ good after) bad (ref.set key value machine) := by
  have typed := typedArrayAt_of_there ref object machine there (.inl kind)
  rw [show ref.set key value machine = _ from
    setFrom_accessor key value ref machine 999 typed property holder found getter setter content]
  refine ends_bind (fun _ after => good after) _ _ _ _ machine ?_ fun _ after holds => .value none after ⟨rfl, holds⟩
  exact ends_bind _ _ _ _ _ machine called fun result after holds => .value () after holds

theorem ends_put (methods : Array Method) (depth : Nat) (realm : Array Object) (ref : Ref) (text : String) (value : Value)
    (machine : Machine) (object : Object) (untouched : Untouched methods realm)
    (furnished : Furnished realm machine.heap machine.heap.size) (low : realm.size ≤ ref)
    (there : machine.heap[ref]? = some object) (kind : object.kind = .ordinary)
    (simple : IsDatum realm.size machine.heap.size value) (later : ∀ other, value = .object other → ref < other) :
    Ends (fun _ after => ∃ changed, Assigned realm machine after ref object (.ofString text) value changed)
      (fun _ => False) (@Ref.put (engine methods (depth + 1)) ref (.ofString text) value machine) := by
  have asked := asked_ofString text
  have named := Key.isSymbol_ofString text
  have open_ := Key.ofString_ne_secret text
  generalize Key.ofString text = key at asked named open_
  have datum := datum_of_there realm machine.heap ref object furnished low there
  have put (good : Machine → Prop) (sets : Ends (fun refusal after => refusal = none ∧ good after) (fun _ => False)
      (@Ref.set (engine methods (depth + 1)) ref key value machine)) :
      Ends (fun _ after => good after) (fun _ => False) (@Ref.put (engine methods (depth + 1)) ref key value machine) := by
    refine ends_bind _ _ _ _ _ machine sets ?_
    rintro refusal after ⟨rfl, holds⟩
    exact .value () after holds
  cases own : object.properties.find? key with
  | some property =>
    obtain ⟨-, old, rfl, -⟩ := datum.plain key property own
    obtain ⟨after, changed, ended, assigned⟩ :=
      assigned_again realm ref object key value machine there datum kind named simple old own
    refine put (fun after => ∃ changed, Assigned realm machine after ref object key value changed) ?_
    rw [@set_again (engine methods (depth + 1)) ref key value old machine object there kind
      ((own_ordinary machine.heap object key kind).trans own), bind_value _ _ _ _ () ended]
    exact .value none after ⟨rfl, changed, assigned⟩
  | none =>
    obtain free | ⟨rfl, property, holder, getter, setter, found, content, native⟩ :=
      free_or_parent methods realm machine.heap key ref untouched furnished asked
        (.inr (.inr ⟨low, lt_of_there machine.heap ref object there⟩))
    · obtain ⟨after, changed, ended, assigned⟩ := @put_free (engine methods (depth + 1)) methods realm ref key value
        machine object untouched furnished low there kind named open_ simple own free
      exact .of_eq _ _ _ () after ended ⟨changed, assigned⟩
    · have kept := native.kept methods realm machine.heap machine.heap.size _ _ furnished
      obtain ⟨other, id, constructs, data, rfl, -⟩ := kindOf_native methods machine.heap _ setter kept
      refine put (fun after => ∃ changed, Assigned realm machine after ref object protoKey value changed) ?_
      refine @ends_set_accessor (engine methods (depth + 1)) ref protoKey value machine object there kind property holder
        other getter found content _ _ ?_
      refine (ends_call methods depth Library.setParent (.object other) (.object ref) #[value] machine kept
        (fun _ after => ∃ changed, Assigned realm machine after ref object protoKey value changed) _
        fun callee data => ?_).weaken _ _ _ _ _ ?_ fun _ fails => fails
      · exact @ends_setParent (engine methods depth) methods realm ref object machine value _ untouched furnished low there
          datum kind rfl rfl simple later
      · rintro result after ⟨before, ⟨changed, assigned⟩, rfl⟩
        exact ⟨changed, assigned.heap, assigned.limit, assigned.charged, assigned.fixed, assigned.kind, assigned.datum, assigned.plain,
          assigned.names, assigned.others, assigned.guarded⟩

/-! ### Arrays -/

/-- An array whose elements are all there. -/
def fullArray (elements : Array Value) : Object :=
  { kind := .array elements elements.size false, parent := some Intrinsic.arrayPrototype.ref, extensible := true
    properties := .empty }

theorem isDatumObject_fullArray (low top ref : Ref) (elements : Array Value)
    (each : ∀ value ∈ elements, IsDatum low top value) : IsDatumObject low top ref (fullArray elements) :=
  ⟨.inr ⟨elements, rfl, each⟩, fun _ same => .inr (.inl (Option.some.inj same).symm), rfl, Properties.sound_empty,
    fun key property found => absurd found (Properties.not_found_empty key property)⟩

theorem elements_fullArray (low top ref : Ref) (elements : Array Value)
    (datum : IsDatumObject low top ref (fullArray elements)) : ∀ value ∈ elements, IsDatum low top value := by
  obtain ordinary | ⟨elements', kind, each⟩ := datum.kind
  · cases ordinary
  · cases kind
    exact each

theorem store_fullArray (elements : Array Value) (value : Value) :
    (fullArray elements).store (.index elements.size) (.plain value) = fullArray (elements.push value) := by
  have length : max elements.size (elements.size + 1) = (elements.push value).size := by
    rw [Array.size_push]
    exact Nat.max_eq_right (Nat.le_succ _)
  have placed : placeElement? elements elements.size value = some (elements.push value) := by
    rw [placeElement?, if_neg (Nat.lt_irrefl _), if_pos rfl]
  have near : elements.size < elements.size + longestGap elements.size := by
    unfold longestGap
    omega
  have content : (Property.plain value).content = .value value := rfl
  have dense : ((Property.plain value).isPlain && (Properties.empty.find? (.index elements.size)).isNone) = true := rfl
  simp only [fullArray, Object.store, near, content, dense, if_true, placed, length]

theorem put_element [Engine] (methods : Array Method) (realm : Array Object) (ref : Ref) (value : Value)
    (machine : Machine) (elements : Array Value) (untouched : Untouched methods realm)
    (furnished : Furnished realm machine.heap machine.heap.size) (low : realm.size ≤ ref)
    (there : machine.heap[ref]? = some (fullArray elements)) : ∃ after,
    ref.put (.index elements.size) value machine = .done (.value () after) ∧
      Changes machine.heap after.heap ref (fullArray (elements.push value)) ∧ after.limit = machine.limit ∧
      after.charged = machine.charged + propertySize ∧ SameVariables machine after := by
  have free : Free machine.heap (.index elements.size) ref := by
    obtain free | ⟨other, -⟩ := free_or_parent methods realm machine.heap (.index elements.size) ref untouched furnished
      (.inr (.inl ⟨_, rfl⟩)) (.inr (.inr ⟨low, lt_of_there machine.heap ref _ there⟩))
    · exact free
    · rw [protoKey_eq] at other
      cases other
  have own : ownProperty? machine.heap (fullArray elements) (.index elements.size) = none := by
    rw [own_beyond machine.heap _ elements elements.size elements.size false rfl (Array.getElem?_eq_none (Nat.le_refl _))]
    exact Properties.find?_empty _
  refine ⟨{ machine with heap := machine.heap.modify ref (·.store (.index elements.size) (.plain value))
                         charged := machine.charged + propertySize }, ?_, store_fullArray elements value ▸
    changes_modify machine.heap ref _ (·.store (.index elements.size) (.plain value)) there, rfl, rfl, rfl, rfl⟩
  have set_ := set_new ref (.index elements.size) value machine _ there (.inr ⟨_, _, rfl⟩) rfl own free
  exact put_of_set (.index elements.size) value ref machine _ set_

end ScriptSandbox.Script
