import ScriptSandbox.Proofs.Crossing
import ScriptSandbox.Proofs.PropertyTable
import ScriptSandbox.Script.Access
import ScriptSandbox.Script.Library.Array

/-!
A realm whose prototypes of objects and arrays no script has changed, and the objects that a host puts into
it. These have plain properties with plain values, and their parents lead to the two prototypes or end before.
So reading a property of such an object runs no code, and what is read under a name that conversions to texts
ask for is plain, or one of the functions that the prototypes had from the start.
-/

namespace ScriptSandbox.Script

/-! ### Keys -/

def protoKey : Key := .ofString "__proto__"

def joinKey : Key := .ofString "join"

theorem Key.isSymbol_ofString (text : String) : (Key.ofString text).isSymbol = false := by
  rw [Key.ofString, Key.ofUnits]
  cases Key.indexOf? (Units.ofString text) <;> rfl

theorem toStringKey_eq : toStringKey = .name (Units.ofString "toString") := by decide +kernel

theorem protoKey_eq : protoKey = .name (Units.ofString "__proto__") := by decide +kernel

/-! ### The prototypes -/

def IsNative (methods : Array Method) (heap : Array Object) (method : Method) (value : Value) : Prop :=
  ∃ ref object id constructs data, value = .object ref ∧ heap[ref]? = some object ∧
    object.kind = .native id constructs data ∧ methods[id]? = some method

def Properties.Holds (properties : Properties) (key : Key) (value : Value) : Prop :=
  ∃ property, properties.find? key = some property ∧ property.content = .value value

/-- What the prototype of all objects has: functions that give the text of an object, the object itself, and
its parent. Every other name has a value that can be changed. -/
structure ObjectTable (methods : Array Method) (heap : Array Object) (properties : Properties) : Prop where
  text : ∃ value, properties.Holds toStringKey value ∧ IsNative methods heap Library.objectTextMethod value
  self : ∃ value, properties.Holds valueOfKey value ∧ IsNative methods heap Library.objectValueMethod value
  parent : ∃ property getter setter, properties.find? protoKey = some property ∧
    property.content = .accessor getter setter ∧ IsNative methods heap Library.setParent setter
  plain : ∀ text property, .name text ≠ protoKey → properties.find? (.name text) = some property →
    property.writable = true ∧ ∃ value, property.content = .value value
  without : ∀ key ∈ [joinKey, lengthKey, WellKnown.toPrimitive.key, WellKnown.toStringTag.key],
    properties.find? key = none
  noIndex : ∀ n, properties.find? (.index n) = none

/-- What the prototype of arrays has: functions that give the text of an array and join one. -/
structure ArrayTable (methods : Array Method) (heap : Array Object) (properties : Properties) : Prop where
  text : ∃ value, properties.Holds toStringKey value ∧ IsNative methods heap Library.arrayTextMethod value
  join : properties.Holds joinKey Intrinsic.arrayJoin.value
  plain : ∀ text property, properties.find? (.name text) = some property →
    property.writable = true ∧ ∃ value, property.content = .value value
  without : ∀ key ∈ [valueOfKey, WellKnown.toPrimitive.key, WellKnown.toStringTag.key], properties.find? key = none
  noIndex : ∀ n, properties.find? (.index n) = none

/-- No script has changed the prototypes of objects and arrays in what conversions rely on. -/
structure Untouched (methods : Array Method) (heap : Array Object) : Prop where
  object : ∃ extensible properties, heap[Intrinsic.objectPrototype.ref]? =
    some { kind := .ordinary, parent := none, extensible, properties } ∧ ObjectTable methods heap properties
  array : ∃ extensible properties, heap[Intrinsic.arrayPrototype.ref]? =
    some { kind := .array #[] 0 false, parent := some Intrinsic.objectPrototype.ref, extensible, properties } ∧
      ArrayTable methods heap properties

/-! ### Objects of the host -/

/-- A value without code: no symbol, no big integer, numbers of the kind that the engine chooses for them, and
objects of a part of the heap. -/
def IsDatum (low top : Ref) : Value → Prop
  | .null => True
  | .boolean _ => True
  | .integer n => fitsInteger n = true
  | .number x => Value.ofFloat x = .number x
  | .text _ => True
  | .object ref => low ≤ ref ∧ ref < top
  | _ => False

/-- An object or array of the host: its properties are plain, and its parent is a prototype or a later object. -/
structure IsDatumObject (low top ref : Ref) (object : Object) : Prop where
  kind : object.kind = .ordinary ∨ ∃ elements : Array Value, object.kind = .array elements elements.size false ∧
    ∀ value ∈ elements, IsDatum low top value
  parent : ∀ parent, object.parent = some parent →
    parent = Intrinsic.objectPrototype.ref ∨ parent = Intrinsic.arrayPrototype.ref ∨ ref < parent ∧ parent < top
  extensible : object.extensible = true
  sound : object.properties.Sound
  plain : ∀ key property, object.properties.find? key = some property →
    key.isSymbol = false ∧ ∃ value, property = .plain value ∧ IsDatum low top value

/-- A heap that begins with a realm, and goes on with objects of the host up to some place. -/
structure Furnished (realm heap : Array Object) (top : Ref) : Prop where
  bound : realm.size ≤ top ∧ top ≤ heap.size
  kept : ∀ ref < realm.size, heap[ref]? = realm[ref]?
  data : ∀ ref, realm.size ≤ ref → ref < top → ∃ object, heap[ref]? = some object ∧
    IsDatumObject realm.size top ref object

theorem IsDatum.mono (low top least greatest : Ref) (value : Value) (datum : IsDatum least top value)
    (lower : low ≤ least) (higher : top ≤ greatest) : IsDatum low greatest value := by
  cases value with
  | object ref => exact ⟨Nat.le_trans lower datum.1, Nat.lt_of_lt_of_le datum.2 higher⟩
  | _ => exact datum

theorem IsDatumObject.mono (low top greatest ref : Ref) (object : Object) (datum : IsDatumObject low top ref object)
    (higher : top ≤ greatest) : IsDatumObject low greatest ref object := by
  refine ⟨?_, ?_, datum.extensible, datum.sound, ?_⟩
  · obtain ordinary | ⟨elements, kind, each⟩ := datum.kind
    · exact .inl ordinary
    · exact .inr ⟨elements, kind, fun value among => (each value among).mono low top low greatest value
        (Nat.le_refl low) higher⟩
  · intro parent same
    obtain object | array | ⟨later, below⟩ := datum.parent parent same
    · exact .inl object
    · exact .inr (.inl array)
    · exact .inr (.inr ⟨later, Nat.lt_of_lt_of_le below higher⟩)
  · intro key property found
    obtain ⟨named, value, plain, each⟩ := datum.plain key property found
    exact ⟨named, value, plain, each.mono low top low greatest value (Nat.le_refl low) higher⟩

/-! ### Reading -/

/-- An object that conversions look at: a prototype or an object of the host. -/
def Tame (realm : Array Object) (top ref : Ref) : Prop :=
  ref = Intrinsic.objectPrototype.ref ∨ ref = Intrinsic.arrayPrototype.ref ∨ realm.size ≤ ref ∧ ref < top

/-- Keys that conversions to texts read and that a host writes: names, indices, and two symbols. -/
def Asked (key : Key) : Prop :=
  (∃ text, key = .name text) ∨ (∃ n, key = .index n) ∨ key = WellKnown.toPrimitive.key ∨
    key = WellKnown.toStringTag.key

/-- What a value under a key may be. -/
def Harmless (methods : Array Method) (realm : Array Object) (top : Ref) (key : Key) (value : Value) : Prop :=
  IsDatum realm.size top value ∨
  key = toStringKey ∧ (IsNative methods realm Library.objectTextMethod value ∨
    IsNative methods realm Library.arrayTextMethod value) ∨
  key = valueOfKey ∧ IsNative methods realm Library.objectValueMethod value ∨
  key = joinKey ∧ value = Intrinsic.arrayJoin.value ∨
  key = lengthKey ∧ (∃ n : Nat, value = .ofNat n) ∨
  ∃ text, key = .name text ∧ key ∉ [toStringKey, valueOfKey, joinKey, lengthKey]

/-- What a property under a key may be: the function that changes the parent, or a value that can be changed. -/
def Readable (methods : Array Method) (realm : Array Object) (top : Ref) (key : Key) (property : Property) : Prop :=
  (key = protoKey ∧ ∃ getter setter, property.content = .accessor getter setter ∧
    IsNative methods realm Library.setParent setter) ∨
  property.writable = true ∧ ∃ value, property.content = .value value ∧ Harmless methods realm top key value

theorem own_ordinary (heap : Array Object) (object : Object) (key : Key) (kind : object.kind = .ordinary) :
    ownProperty? heap object key = object.properties.find? key := by
  unfold ownProperty?
  rw [kind]

theorem own_element (heap : Array Object) (object : Object) (elements : Array Value) (length n : Nat)
    (fixedLength : Bool) (value : Value) (kind : object.kind = .array elements length fixedLength)
    (found : elements[n]? = some value) (there : value ≠ .absent) :
    ownProperty? heap object (.index n) = some (.plain value) := by
  unfold ownProperty?
  rw [kind]
  simp only [found]

theorem own_beyond (heap : Array Object) (object : Object) (elements : Array Value) (length n : Nat)
    (fixedLength : Bool) (kind : object.kind = .array elements length fixedLength) (beyond : elements[n]? = none) :
    ownProperty? heap object (.index n) = object.properties.find? (.index n) := by
  unfold ownProperty?
  rw [kind]
  simp only [beyond]

theorem own_length (heap : Array Object) (object : Object) (elements : Array Value) (length : Nat)
    (fixedLength : Bool) (kind : object.kind = .array elements length fixedLength) :
    ownProperty? heap object lengthKey = some { content := .value (.ofNat length), writable := !fixedLength
                                                enumerable := false, configurable := false } := by
  have named : lengthKey = .name (Units.ofString "length") := by decide +kernel
  unfold ownProperty?
  rw [kind, named]
  exact if_pos (beq_self_eq_true _)

theorem own_name (heap : Array Object) (object : Object) (elements : Array Value) (length : Nat)
    (fixedLength : Bool) (text : Units) (kind : object.kind = .array elements length fixedLength)
    (other : .name text ≠ lengthKey) :
    ownProperty? heap object (.name text) = object.properties.find? (.name text) := by
  unfold ownProperty?
  rw [kind]
  exact if_neg (by rw [beq_iff_eq]; exact other)

theorem own_symbol (heap : Array Object) (object : Object) (elements : Array Value) (length id : Nat)
    (fixedLength : Bool) (kind : object.kind = .array elements length fixedLength) :
    ownProperty? heap object (.symbol id) = object.properties.find? (.symbol id) := by
  unfold ownProperty?
  rw [kind]

/-- An object whose properties are all readable, and whose parent is tame. -/
structure Transparent (methods : Array Method) (realm heap : Array Object) (top : Ref) (object : Object) : Prop where
  kind : object.kind = .ordinary ∨ ∃ elements length fixedLength, object.kind = .array elements length fixedLength
  parent : ∀ parent, object.parent = some parent → Tame realm top parent
  own : ∀ key property, Asked key → ownProperty? heap object key = some property →
    Readable methods realm top key property

section

variable (methods : Array Method) (realm heap : Array Object) (top : Ref)

theorem Properties.Holds.content (properties : Properties) (key : Key) (value other : Value) (property : Property)
    (holds : properties.Holds key value) (found : properties.find? key = some property)
    (content : property.content = .value other) : other = value := by
  obtain ⟨property', found', content'⟩ := holds
  rw [found] at found'
  rw [← Option.some.inj found', content] at content'
  exact Content.value.inj content'

/-- A named value of a prototype is harmless if the names that conversions read are accounted for. -/
theorem harmless_of_named (text : Units) (value : Value)
    (texts : .name text = toStringKey → IsNative methods realm Library.objectTextMethod value ∨
      IsNative methods realm Library.arrayTextMethod value)
    (self : .name text = valueOfKey → IsNative methods realm Library.objectValueMethod value)
    (join : .name text = joinKey → value = Intrinsic.arrayJoin.value)
    (length : .name text = lengthKey → ∃ n : Nat, value = .ofNat n) :
    Harmless methods realm top (.name text) value := by
  by_cases first : .name text = toStringKey
  · exact .inr (.inl ⟨first, texts first⟩)
  by_cases second : .name text = valueOfKey
  · exact .inr (.inr (.inl ⟨second, self second⟩))
  by_cases third : .name text = joinKey
  · exact .inr (.inr (.inr (.inl ⟨third, join third⟩)))
  by_cases fourth : .name text = lengthKey
  · exact .inr (.inr (.inr (.inr (.inl ⟨fourth, length fourth⟩))))
  · refine .inr (.inr (.inr (.inr (.inr ⟨text, rfl, ?_⟩))))
    simp only [List.mem_cons, List.not_mem_nil, or_false, not_or]
    exact ⟨first, second, third, fourth⟩

theorem objectTable_readable (properties : Properties) (table : ObjectTable methods realm properties) (key : Key)
    (property : Property) (asked : Asked key) (found : properties.find? key = some property) :
    Readable methods realm top key property := by
  have without (among : key ∈ [joinKey, lengthKey, WellKnown.toPrimitive.key, WellKnown.toStringTag.key]) : False := by
    rw [table.without key among] at found
    cases found
  obtain ⟨text, rfl⟩ | ⟨n, rfl⟩ | rfl | rfl := asked
  · by_cases proto : .name text = protoKey
    · obtain ⟨property', getter, setter, found', content, native⟩ := table.parent
      rw [← proto, found] at found'
      exact .inl ⟨proto, getter, setter, Option.some.inj found' ▸ content, native⟩
    · obtain ⟨writable, value, content⟩ := table.plain text property proto found
      refine .inr ⟨writable, value, content, harmless_of_named methods realm top text value ?_ ?_ ?_ ?_⟩
      · intro same
        obtain ⟨native, holds, known⟩ := table.text
        rw [same] at found
        exact .inl (holds.content properties toStringKey native value property found content ▸ known)
      · intro same
        obtain ⟨native, holds, known⟩ := table.self
        rw [same] at found
        exact holds.content properties valueOfKey native value property found content ▸ known
      · exact fun same => (without (by rw [same]; decide +kernel)).elim
      · exact fun same => (without (by rw [same]; decide +kernel)).elim
  · rw [table.noIndex n] at found
    cases found
  · exact (without (by decide +kernel)).elim
  · exact (without (by decide +kernel)).elim

theorem arrayTable_readable (properties : Properties) (table : ArrayTable methods realm properties) (key : Key)
    (property : Property) (asked : Asked key) (other : key ≠ lengthKey)
    (found : properties.find? key = some property) : Readable methods realm top key property := by
  have without (among : key ∈ [valueOfKey, WellKnown.toPrimitive.key, WellKnown.toStringTag.key]) : False := by
    rw [table.without key among] at found
    cases found
  obtain ⟨text, rfl⟩ | ⟨n, rfl⟩ | rfl | rfl := asked
  · obtain ⟨writable, value, content⟩ := table.plain text property found
    refine .inr ⟨writable, value, content, harmless_of_named methods realm top text value ?_ ?_ ?_ ?_⟩
    · intro same
      obtain ⟨native, holds, known⟩ := table.text
      rw [same] at found
      exact .inr (holds.content properties toStringKey native value property found content ▸ known)
    · exact fun same => (without (by rw [same]; decide +kernel)).elim
    · intro same
      rw [same] at found
      exact table.join.content properties joinKey _ value property found content
    · exact fun same => absurd same other
  · rw [table.noIndex n] at found
    cases found
  · exact (without (by decide +kernel)).elim
  · exact (without (by decide +kernel)).elim

theorem objectPrototype_transparent (extensible : Bool) (properties : Properties)
    (table : ObjectTable methods realm properties) :
    Transparent methods realm heap top { kind := .ordinary, parent := none, extensible, properties } := by
  refine ⟨.inl rfl, nofun, fun key property asked found => ?_⟩
  rw [own_ordinary heap _ key rfl] at found
  exact objectTable_readable methods realm top properties table key property asked found

theorem arrayPrototype_transparent (extensible : Bool) (properties : Properties)
    (table : ArrayTable methods realm properties) :
    Transparent methods realm heap top
      { kind := .array #[] 0 false, parent := some Intrinsic.objectPrototype.ref, extensible, properties } := by
  refine ⟨.inr ⟨_, _, _, rfl⟩, fun parent same => .inl (Option.some.inj same).symm, fun key property asked found => ?_⟩
  have searched (other : key ≠ lengthKey) : properties.find? key = some property := by
    obtain ⟨text, rfl⟩ | ⟨n, rfl⟩ | rfl | rfl := asked
    · rwa [own_name heap _ _ _ _ text rfl other] at found
    · rwa [own_beyond heap _ #[] 0 n false rfl rfl] at found
    · rwa [WellKnown.key, own_symbol heap _ _ _ _ _ rfl] at found
    · rwa [WellKnown.key, own_symbol heap _ _ _ _ _ rfl] at found
  by_cases length : key = lengthKey
  · subst length
    rw [own_length heap _ _ _ _ rfl] at found
    cases found
    exact .inr ⟨rfl, _, rfl, .inr (.inr (.inr (.inr (.inl ⟨rfl, 0, rfl⟩))))⟩
  · exact arrayTable_readable methods realm top properties table key property asked length (searched length)

theorem datum_transparent (ref : Ref) (object : Object) (low : realm.size ≤ ref)
    (datum : IsDatumObject realm.size top ref object) : Transparent methods realm heap top object := by
  have plain (key : Key) (property : Property) (found : object.properties.find? key = some property) :
      Readable methods realm top key property := by
    obtain ⟨-, value, rfl, each⟩ := datum.plain key property found
    exact .inr ⟨rfl, value, rfl, .inl each⟩
  refine ⟨?_, ?_, ?_⟩
  · obtain ordinary | ⟨elements, kind, -⟩ := datum.kind
    · exact .inl ordinary
    · exact .inr ⟨_, _, _, kind⟩
  · intro parent same
    obtain object | array | ⟨later, below⟩ := datum.parent parent same
    · exact .inl object
    · exact .inr (.inl array)
    · exact .inr (.inr ⟨Nat.le_of_lt (Nat.lt_of_le_of_lt low later), below⟩)
  · intro key property asked found
    obtain ordinary | ⟨elements, kind, each⟩ := datum.kind
    · rw [own_ordinary heap object key ordinary] at found
      exact plain key property found
    by_cases length : key = lengthKey
    · subst length
      rw [own_length heap object _ _ _ kind] at found
      cases found
      exact .inr ⟨rfl, _, rfl, .inr (.inr (.inr (.inr (.inl ⟨rfl, _, rfl⟩))))⟩
    obtain ⟨text, rfl⟩ | ⟨n, rfl⟩ | rfl | rfl := asked
    · rw [own_name heap object _ _ _ text kind length] at found
      exact plain _ property found
    · cases element : elements[n]? with
      | none =>
        rw [own_beyond heap object _ _ n _ kind element] at found
        exact plain _ property found
      | some value =>
        have among := each value (Array.mem_of_getElem? element)
        have there : value ≠ .absent := by
          rintro rfl
          exact among
        rw [own_element heap object _ _ n _ value kind element there] at found
        cases found
        exact .inr ⟨rfl, value, rfl, .inl among⟩
    · rw [WellKnown.key, own_symbol heap object _ _ _ _ kind] at found
      exact plain _ property found
    · rw [WellKnown.key, own_symbol heap object _ _ _ _ kind] at found
      exact plain _ property found

theorem lt_of_there (objects : Array Object) (ref : Ref) (object : Object) (there : objects[ref]? = some object) :
    ref < objects.size := by
  by_contra beyond
  rw [Array.getElem?_eq_none (Nat.not_lt.1 beyond)] at there
  cases there

theorem tame_transparent (ref : Ref) (untouched : Untouched methods realm) (furnished : Furnished realm heap top)
    (tame : Tame realm top ref) :
    ∃ object, heap[ref]? = some object ∧ Transparent methods realm heap top object := by
  obtain rfl | rfl | ⟨low, high⟩ := tame
  · obtain ⟨extensible, properties, there, table⟩ := untouched.object
    rw [← furnished.kept _ (lt_of_there realm _ _ there)] at there
    exact ⟨_, there, objectPrototype_transparent methods realm heap top extensible properties table⟩
  · obtain ⟨extensible, properties, there, table⟩ := untouched.array
    rw [← furnished.kept _ (lt_of_there realm _ _ there)] at there
    exact ⟨_, there, arrayPrototype_transparent methods realm heap top extensible properties table⟩
  · obtain ⟨object, there, datum⟩ := furnished.data ref low high
    exact ⟨object, there, datum_transparent methods realm heap top ref object low datum⟩

theorem lookup_of_there (key : Key) (steps : Nat) (ref : Ref) (object : Object) (there : heap[ref]? = some object)
    (kind : object.kind = .ordinary ∨ ∃ elements length fixedLength, object.kind = .array elements length fixedLength) :
    lookup heap key (steps + 1) ref =
      match ownProperty? heap object key with
      | some property => .property property ref
      | none =>
        match object.parent with
        | some parent => lookup heap key steps parent
        | none => .missing := by
  rw [lookup, there]
  obtain ⟨_, parent, extensible, properties⟩ := object
  obtain ordinary | ⟨elements, length, fixedLength, array⟩ := kind
  · cases ordinary
    rfl
  · cases array
    rfl

/-- A key is missing on the way through the parents of a tame object, or has a readable property. -/
theorem lookup_tame (untouched : Untouched methods realm) (furnished : Furnished realm heap top) (key : Key)
    (asked : Asked key) (steps : Nat) (ref : Ref) (tame : Tame realm top ref) :
    lookup heap key steps ref = .missing ∨ ∃ property holder, lookup heap key steps ref = .property property holder ∧
      Readable methods realm top key property := by
  induction steps generalizing ref with
  | zero => exact .inl rfl
  | succ steps ih =>
    obtain ⟨object, there, transparent⟩ := tame_transparent methods realm heap top ref untouched furnished tame
    rw [lookup_of_there heap key steps ref object there transparent.kind]
    cases own : ownProperty? heap object key with
    | some property => exact .inr ⟨property, ref, rfl, transparent.own key property asked own⟩
    | none =>
      cases above : object.parent with
      | none => exact .inl rfl
      | some parent => exact ih parent (transparent.parent parent above)

end

end ScriptSandbox.Script
