import ScriptSandbox.Decimal.Layout
import ScriptSandbox.Decimal.Whole
import ScriptSandbox.Text.Units

/-!
The values of scripts. Numbers come in two kinds that scripts cannot tell apart but hosts can: integers
of 32 bits, and doubles. `Value.ofFloat` chooses the kind of a double that is new to the script.
-/

namespace ScriptSandbox.Script

abbrev Ref := Nat

inductive Value where
  | undefined
  | null
  | boolean (value : Bool)
  /-- A number that is kept as an integer of 32 bits. -/
  | integer (value : Int)
  /-- A number that is kept as a double. -/
  | number (value : Float)
  | text (value : Units)
  | symbol (id : Nat)
  | bigint (value : Int)
  | object (ref : Ref)
  /-- What a binding holds before its declaration ran, and an array where it has no element. No
  expression of a script has this value. -/
  | absent
  deriving Inhabited

def fitsInteger (n : Int) : Bool := -2147483648 ≤ n && n ≤ 2147483647

namespace Value

/-- A double as a number: an integer if it is whole, fits 32 bits and is not negative zero. -/
def ofFloat (x : Float) : Value :=
  match Double.whole? x with
  | some n => if fitsInteger n && !(n == 0 && x.toBits != 0) then .integer n else .number x
  | none => .number x

/-- A whole number: an integer if it fits 32 bits, else the nearest double. -/
def ofInt (n : Int) : Value :=
  if fitsInteger n then .integer n else .number (Double.ofInt n)

def ofNat (n : Nat) : Value := ofInt n

def ofString (s : String) : Value := .text (Units.ofString s)

def isUndefined : Value → Bool
  | .undefined => true
  | _ => false

def isNullish : Value → Bool
  | .undefined => true
  | .null => true
  | _ => false

def isObject : Value → Bool
  | .object _ => true
  | _ => false

def isAbsent : Value → Bool
  | .absent => true
  | _ => false

instance : Coe String Value := ⟨ofString⟩

end Value

/-- The name of a property. Array indices are kept apart from other names. -/
inductive Key where
  | index (n : Nat)
  | name (text : Units)
  | symbol (id : Nat)
  /-- The name of a private member of a class. -/
  | secret (id : Nat)
  deriving DecidableEq, Hashable, Inhabited

namespace Key

def indexBound : Nat := 4294967295

/-- The number that a text writes, if it is the usual text of an array index. -/
def indexOf? (text : Units) : Option Nat :=
  if text.size = 0 || 10 < text.size then none
  else if text[0]? == some 48 then (if text.size = 1 then some 0 else none)
  else if text.all fun unit => 48 ≤ unit && unit ≤ 57 then
    let n := text.foldl (fun n unit => n * 10 + (unit.toNat - 48)) 0
    if n < indexBound then some n else none
  else none

def ofUnits (text : Units) : Key :=
  match indexOf? text with
  | some n => .index n
  | none => .name text

def ofString (text : String) : Key := ofUnits (Units.ofString text)

instance : Coe String Key := ⟨ofString⟩

def digitsOf (n : Nat) : Units := Units.ofString (toString n)

def toUnits : Key → Units
  | .index n => digitsOf n
  | .name text => text
  | _ => #[]

def toValue : Key → Value
  | .index n => .text (digitsOf n)
  | .name text => .text text
  | .symbol id => .symbol id
  | .secret _ => .undefined

def isSymbol : Key → Bool
  | .symbol _ => true
  | _ => false

end Key

inductive WellKnown where
  | iterator | asyncIterator | hasInstance | toPrimitive | toStringTag | species
  | isConcatSpreadable | unscopables | match_ | matchAll | replace | search | split
  deriving DecidableEq

namespace WellKnown

def all : List WellKnown :=
  [.iterator, .asyncIterator, .hasInstance, .toPrimitive, .toStringTag, .species,
    .isConcatSpreadable, .unscopables, .match_, .matchAll, .replace, .search, .split]

/-- Well-known symbols are the first ones. -/
def id (symbol : WellKnown) : Nat := symbol.ctorIdx

def name : WellKnown → String
  | .iterator => "iterator"
  | .asyncIterator => "asyncIterator"
  | .hasInstance => "hasInstance"
  | .toPrimitive => "toPrimitive"
  | .toStringTag => "toStringTag"
  | .species => "species"
  | .isConcatSpreadable => "isConcatSpreadable"
  | .unscopables => "unscopables"
  | .match_ => "match"
  | .matchAll => "matchAll"
  | .replace => "replace"
  | .search => "search"
  | .split => "split"

def key (symbol : WellKnown) : Key := .symbol symbol.id

end WellKnown

end ScriptSandbox.Script
