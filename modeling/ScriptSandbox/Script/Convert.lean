import ScriptSandbox.Script.Lookup

/-!
Conversions between values: to primitive values, texts, numbers, keys and objects.
-/

namespace ScriptSandbox.Script

open Execution

namespace Value

def truthy : Value → Bool
  | .undefined => false
  | .null => false
  | .absent => false
  | .boolean value => value
  | .integer n => n != 0
  | .number x => !(x == 0 || x.isNaN)
  | .text content => !content.isEmpty
  | .bigint n => n != 0
  | _ => true

/-- Whether two values are the same, where `NaN` is no number and zeros are equal. -/
def same : Value → Value → Bool
  | .undefined, .undefined => true
  | .null, .null => true
  | .boolean a, .boolean b => a == b
  | .integer a, .integer b => a == b
  | .text a, .text b => a == b
  | .symbol a, .symbol b => a == b
  | .bigint a, .bigint b => a == b
  | .object a, .object b => a == b
  | a, b =>
    match float? a, float? b with
    | some x, some y => x == y
    | _, _ => false

/-- Whether two values cannot be told apart, except that zeros are equal. -/
def sameOrNaN (a b : Value) : Bool :=
  match float? a, float? b with
  | some x, some y => x == y || (x.isNaN && y.isNaN)
  | _, _ => same a b

/-- Whether two values cannot be told apart at all. -/
def identical (a b : Value) : Bool :=
  match float? a, float? b with
  | some x, some y => x.toBits == y.toBits || (x.isNaN && y.isNaN)
  | _, _ => same a b

def plainText : Value → Units
  | .undefined => "undefined"
  | .absent => "undefined"
  | .null => "null"
  | .boolean true => "true"
  | .boolean false => "false"
  | .integer n => Units.ofString (toString n)
  | .number x => Units.ofString (Number.text x)
  | .bigint n => Units.ofString (toString n)
  | .text content => content
  | _ => #[]

end Value

inductive Hint where
  | any | number | text

def Hint.name : Hint → String
  | .any => "default"
  | .number => "number"
  | .text => "string"

variable [Engine]

def primitiveUnder (object : Value) (key : Key) : Execution (Option Value) := do
  let found ← object.get key
  if ← isCallable found then
    let result ← call found object #[]
    return if result.isObject then none else some result
  else return none

namespace Value

def toPrimitive (value : Value) (hint : Hint) : Execution Value := do
  match value with
  | .object _ =>
    match ← value.getMethod WellKnown.toPrimitive.key with
    | some function =>
      let result ← call function value #[.ofString hint.name]
      if result.isObject then throwType "toPrimitive" else return result
    | none =>
      let (first, second) := match hint with
        | .text => (toStringKey, valueOfKey)
        | _ => (valueOfKey, toStringKey)
      match ← primitiveUnder value first with
      | some result => return result
      | none =>
        match ← primitiveUnder value second with
        | some result => return result
        | none => throwType "toPrimitive"
  | primitive => return primitive

def toUnits (value : Value) : Execution Units := do
  match value with
  | .text content => return content
  | .symbol _ => throwType "cannot convert symbol to string"
  | .object _ =>
    match ← value.toPrimitive .text with
    | .symbol _ => throwType "cannot convert symbol to string"
    | primitive => return primitive.plainText
  | primitive => return primitive.plainText

def primitiveNumber (value : Value) : Execution Value := do
  match value with
  | .integer _ => return value
  | .number _ => return value
  | .undefined => return .number Number.nan
  | .absent => return .number Number.nan
  | .null => return .integer 0
  | .boolean true => return .integer 1
  | .boolean false => return .integer 0
  | .text content => return .ofFloat (Number.ofUnits content)
  | .symbol _ => throwType "cannot convert symbol to number"
  | .bigint _ => throwType "cannot convert bigint to number"
  | .object _ => throwType "toPrimitive"

def toNumber (value : Value) : Execution Value := do
  match value with
  | .integer _ => return value
  | .number _ => return value
  | .object _ => primitiveNumber (← value.toPrimitive .number)
  | primitive => primitiveNumber primitive

def toNumeric (value : Value) : Execution Value := do
  match value with
  | .integer _ => return value
  | .number _ => return value
  | .bigint _ => return value
  | .object _ =>
    match ← value.toPrimitive .number with
    | .bigint n => return .bigint n
    | primitive => primitiveNumber primitive
  | primitive => primitiveNumber primitive

def toFloat (value : Value) : Execution Float := do
  return ((← value.toNumber).float?).getD Number.nan

/-- The whole part of a number; `NaN` counts as zero. Infinite numbers have none. -/
def toInteger (value : Value) : Execution Float := do
  let x ← value.toFloat
  if x.isNaN then return 0
  else if x.isFinite then return (if x < 0 then x.ceil else x.floor) + 0.0
  else return x

def toInt32 (value : Value) : Execution Int := do
  match value with
  | .integer n => return n
  | other => return Number.toInt32 (← other.toFloat)

def toUInt32 (value : Value) : Execution Nat := do
  match value with
  | .integer n => return (n % 4294967296).toNat
  | other => return Number.toUInt32 (← other.toFloat)

def longest : Nat := 9007199254740991

def toLength (value : Value) : Execution Nat := do
  match value with
  | .integer n => return n.toNat
  | other =>
    let x ← other.toFloat
    if x.toBits == 0x7FF0000000000000 then return longest
    else return min (Number.truncate x).toNat longest

/-- A position counted from the start, or from the end if it is negative, within a length. -/
def toPosition (value : Value) (length : Nat) : Execution Nat := do
  let x ← value.toInteger
  if x < 0 then
    if x ≤ -(Float.ofNat length) then return 0
    else return length - (Number.truncate (-x)).toNat
  else if Float.ofNat length ≤ x then return length
  else return (Number.truncate x).toNat

def toIndex (value : Value) : Execution Nat := do
  match value with
  | .undefined => return 0
  | other =>
    let x ← other.toInteger
    if x < 0 || 9007199254740991 < x then throwNew .rangeError "invalid array index"
    else return (Number.truncate x).toNat

def toKey (value : Value) : Execution Key := do
  match value with
  | .text content => return .ofUnits content
  | .integer n => if 0 ≤ n then return .index n.toNat else return .ofUnits value.plainText
  | .symbol id => return .symbol id
  | .object _ =>
    match ← value.toPrimitive .text with
    | .symbol id => return .symbol id
    | primitive => return .ofUnits primitive.plainText
  | primitive => return .ofUnits primitive.plainText

def toObject (value : Value) : Execution Ref := do
  match value with
  | .object ref => return ref
  | other =>
    match primitiveParent other with
    | some parent => newObject (.boxed other) parent
    | none => throwType "cannot convert to object"

def toBigInt (value : Value) : Execution Int := do
  match ← value.toPrimitive .number with
  | .bigint n => return n
  | .boolean b => return if b then 1 else 0
  | .text content =>
    let trimmed := (Number.trim content).toText
    match trimmed.toList with
    | [] => return 0
    | '0' :: mark :: digits =>
      let base := if mark = 'x' ∨ mark = 'X' then 16 else if mark = 'o' ∨ mark = 'O' then 8
        else if mark = 'b' ∨ mark = 'B' then 2 else 0
      if 0 < base then
        if Number.areDigits base digits then return Number.ofDigits base digits
        else throwNew .syntaxError "invalid bigint literal"
      else match Decimal.int? trimmed.toList with
        | some n => return n
        | none => throwNew .syntaxError "invalid bigint literal"
    | chars =>
      match Decimal.int? chars with
      | some n => return n
      | none => throwNew .syntaxError "invalid bigint literal"
  | _ => throwType "cannot convert to BigInt"

end Value

def lengthOf (object : Value) : Execution Nat := do (← object.get lengthKey).toLength

end ScriptSandbox.Script
