import ScriptSandbox.Script.Code
import ScriptSandbox.Script.Regexp
import Std.Data.HashMap

/-!
Objects. An object is an entry of a heap: its kind, its parent, whether it may grow, and its properties
in the order they were added. Calls that are under way are plain data too, so that a generator can keep
one.
-/

namespace ScriptSandbox.Script

inductive Content where
  | value (value : Value)
  /-- Functions that read and write; `undefined` where there is none. -/
  | accessor (getter setter : Value)
  deriving Inhabited

structure Property where
  content : Content
  writable : Bool
  enumerable : Bool
  configurable : Bool
  deriving Inhabited

namespace Property

/-- A property as an assignment makes it. -/
def plain (value : Value) : Property :=
  { content := .value value, writable := true, enumerable := true, configurable := true }

/-- A property as the library has it: it can be changed, but is not listed. -/
def hidden (value : Value) : Property :=
  { content := .value value, writable := true, enumerable := false, configurable := true }

/-- A property that cannot be changed at all. -/
def fixed (value : Value) : Property :=
  { content := .value value, writable := false, enumerable := false, configurable := false }

/-- A property that only a redefinition can change. -/
def steady (value : Value) : Property :=
  { content := .value value, writable := false, enumerable := false, configurable := true }

def isPlain (property : Property) : Bool :=
  property.writable && property.enumerable && property.configurable &&
    match property.content with
    | .value _ => true
    | .accessor .. => false

end Property

/-! ### Properties by name, in the order of their first definition -/

/-- Properties in order. Many properties have an index; removed ones leave a gap. -/
structure Properties where
  entries : Array (Option (Key × Property))
  /-- The number of gaps. -/
  gaps : Nat
  index : Option (Std.HashMap Key Nat)
  deriving Inhabited

namespace Properties

def empty : Properties := { entries := #[], gaps := 0, index := none }

def indexedFrom : Nat := 8

def positionIn (entries : Array (Option (Key × Property))) (key : Key) : Nat → Option Nat
  | 0 => none
  | position + 1 =>
    match entries[position]? with
    | some (some (found, _)) => if found == key then some position else positionIn entries key position
    | _ => positionIn entries key position

def position? (properties : Properties) (key : Key) : Option Nat :=
  match properties.index with
  | some index => index[key]?
  | none => positionIn properties.entries key properties.entries.size

def find? (properties : Properties) (key : Key) : Option Property :=
  match properties.position? key with
  | some position =>
    match properties.entries[position]? with
    | some (some (_, property)) => some property
    | _ => none
  | none => none

/-- One step of making an index: the positions so far, and the number of entries before the next. -/
def noted : Std.HashMap Key Nat × Nat → Option (Key × Property) → Std.HashMap Key Nat × Nat
  | (index, position), some (key, _) => (index.insert key position, position + 1)
  | (index, position), none => (index, position + 1)

def indexOf (entries : Array (Option (Key × Property))) : Std.HashMap Key Nat :=
  (entries.foldl noted (∅, 0)).1

/-- Sets a property; a new one comes last. -/
def insert (properties : Properties) (key : Key) (property : Property) : Properties :=
  match properties.position? key with
  | some position =>
    { properties with entries := properties.entries.setIfInBounds position (some (key, property)) }
  | none =>
    let position := properties.entries.size
    let entries := properties.entries.push (some (key, property))
    match properties.index with
    | some index => { properties with entries, index := some (index.insert key position) }
    | none =>
      if indexedFrom < entries.size then { properties with entries, index := some (indexOf entries) }
      else { properties with entries }

def setValueAt (properties : Properties) (position : Nat) (value : Value) : Properties :=
  { properties with entries := properties.entries.modify position fun entry =>
      match entry with
      | some (key, property) => some (key, { property with content := .value value })
      | none => none }

def erase (properties : Properties) (key : Key) : Properties :=
  match properties.position? key with
  | none => properties
  | some position =>
    let entries := properties.entries.setIfInBounds position none
    let gaps := properties.gaps + 1
    if entries.size < 2 * gaps + 8 then
      let entries := entries.filter (·.isSome)
      { entries, gaps := 0
        index := if indexedFrom < entries.size then some (indexOf entries) else none }
    else { entries, gaps, index := properties.index.map (·.erase key) }

/-- The names of all properties, private ones left out, in order. -/
def keys (properties : Properties) : List Key :=
  properties.entries.toList.filterMap fun entry =>
    match entry with
    | some (.secret _, _) => none
    | some (key, _) => some key
    | none => none

def toList (properties : Properties) : List (Key × Property) :=
  properties.entries.toList.filterMap id

end Properties

/-! ### Calls under way -/

structure Handler where
  target : Nat
  height : Nat
  always : Bool
  deriving Inhabited

inductive Resumption where
  | next (value : Value)
  | throw (value : Value)
  | result (value : Value)
  deriving Inhabited

structure Frame where
  code : Code
  pc : Nat
  stack : Array Value
  slots : Array Value
  /-- The cells of this call. -/
  cells : Array Nat
  /-- Cells of the surrounding functions. -/
  captured : Array Nat
  this : Value
  arguments : Array Value
  /-- The function that runs; for an arrow function, the one around it. -/
  self : Value
  home : Option Ref
  newTarget : Value
  handlers : List Handler
  /-- Whether the call makes an object. -/
  constructs : Bool
  /-- Whether the call is being ended from outside. -/
  ending : Bool
  /-- How a generator was resumed that is handing on values of another one. -/
  resumption : Resumption
  /-- The generator that the call belongs to. -/
  owner : Option Ref
  deriving Inhabited

structure Closure where
  code : Code
  captured : Array Nat
  home : Option Ref
  /-- For arrow functions: what they have from their surroundings. -/
  this : Value
  self : Value
  newTarget : Value
  /-- For classes: the function that makes the fields of an instance. -/
  fields : Option Ref
  deriving Inhabited

inductive GeneratorState where
  | suspended (frame : Frame) (started : Bool)
  | running
  | finished
  deriving Inhabited

/-! ### Collections -/

/-- Values as collections tell them apart. -/
inductive Identity where
  | undefined
  | null
  | boolean (value : Bool)
  | number (bits : UInt64)
  | text (value : Units)
  | symbol (id : Nat)
  | bigint (value : Int)
  | object (ref : Ref)
  deriving DecidableEq, Hashable

def Value.identity : Value → Identity
  | .undefined => .undefined
  | .absent => .undefined
  | .null => .null
  | .boolean value => .boolean value
  | .integer n => .number (Float.ofInt n).toBits
  | .number x => if x == 0 then .number 0 else if x.isNaN then .number 1 else .number x.toBits
  | .text value => .text value
  | .symbol id => .symbol id
  | .bigint value => .bigint value
  | .object ref => .object ref

/-- Entries of a collection in order; removed ones leave a gap. -/
structure Table where
  entries : Array (Option (Value × Value))
  index : Std.HashMap Identity Nat
  deriving Inhabited

namespace Table

def empty : Table := { entries := #[], index := ∅ }

def size (table : Table) : Nat := table.index.size

def find? (table : Table) (key : Value) : Option Value :=
  match table.index[key.identity]? with
  | some position => (table.entries.getD position none).map (·.2)
  | none => none

def contains (table : Table) (key : Value) : Bool := table.index.contains key.identity

def insert (table : Table) (key value : Value) : Table :=
  let identity := key.identity
  match table with
  | { entries, index } =>
    match index[identity]? with
    | some position => { entries := entries.setIfInBounds position (some (key, value)), index }
    | none =>
      let key := match key with
        | .number x => if x == 0 then .integer 0 else key
        | other => other
      let index := index.insert identity entries.size
      { entries := entries.push (some (key, value)), index }

def erase (table : Table) (key : Value) : Table :=
  let identity := key.identity
  match table with
  | { entries, index } =>
    match index[identity]? with
    | some position => { entries := entries.setIfInBounds position none, index := index.erase identity }
    | none => { entries, index }

def nextFrom? (table : Table) : Nat → Nat → Option (Nat × Value × Value)
  | 0, _ => none
  | steps + 1, position =>
    match table.entries[position]? with
    | none => none
    | some (some entry) => some (position, entry)
    | some none => nextFrom? table steps (position + 1)

def clear (table : Table) : Table :=
  { entries := table.entries.map fun _ => none, index := ∅ }

end Table

inductive CollectionKind where
  | map | set | weakMap | weakSet
  deriving DecidableEq

inductive Part where
  | keys | values | both
  deriving DecidableEq

inductive ElementType where
  | int8 | uint8 | clamped | int16 | uint16 | int32 | uint32 | bigInt64 | bigUint64 | float32 | float64
  deriving DecidableEq

inductive PromiseState where
  | pending
  | fulfilled (value : Value)
  | rejected (reason : Value)

inductive Course where
  | array (source : Ref) (next : Nat) (part : Part)
  | collection (source : Ref) (next : Nat) (part : Part)
  | text (source : Units) (next : Nat)
  | matches (regexp : Ref) (subject : Units) (all unicode : Bool)
  | ended

inductive Kind where
  | ordinary
  /-- Elements from the start, and the length; elements that are not plain are properties. -/
  | array (elements : Array Value) (length : Nat) (fixedLength : Bool)
  | closure (closure : Closure)
  /-- A function of the library, with values of its own. -/
  | native (id : Nat) (constructs : Bool) (data : Array Value)
  | bound (target : Ref) (this : Value) (arguments : Array Value)
  /-- A stand-in for a target; a revoked one has none. -/
  | proxy (target handler : Option Ref) (calls constructs : Bool)
  | error
  | boxed (value : Value)
  | date (time : Float)
  | collection (kind : CollectionKind) (table : Table)
  | weakRef (target : Value)
  | generator (state : GeneratorState)
  | promise (state : PromiseState)
  | iterator (course : Course)
  | regexp (source flags : Units) (compiled : Regexp.Compiled)
  | buffer (bytes : ByteArray)
  | view (element : Option ElementType) (buffer : Ref) (offset length : Nat)
  | argumentList
  | global
  deriving Inhabited

structure Object where
  kind : Kind
  parent : Option Ref
  extensible : Bool
  properties : Properties
  deriving Inhabited

namespace Object

def create (kind : Kind) (parent : Option Ref) : Object :=
  { kind, parent, extensible := true, properties := .empty }

end Object

def Kind.calls : Kind → Bool
  | .closure _ => true
  | .native .. => true
  | .bound .. => true
  | .proxy _ _ calls _ => calls
  | _ => false

end ScriptSandbox.Script
