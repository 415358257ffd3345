import ScriptSandbox.Script.Access

/-!
Operators between values: arithmetic on numbers, on big integers and on texts, comparison, and the
questions whether an object was made by a constructor and whether it has a property.
-/

namespace ScriptSandbox.Script

open Execution

def typeName (heap : Array Object) : Value → String
  | .undefined => "undefined"
  | .absent => "undefined"
  | .null => "object"
  | .boolean _ => "boolean"
  | .integer _ => "number"
  | .number _ => "number"
  | .text _ => "string"
  | .symbol _ => "symbol"
  | .bigint _ => "bigint"
  | .object ref => if (heap.getD ref default).kind.calls then "function" else "object"

def compareFloats (x y : Float) : Option Ordering :=
  if x < y then some .lt else if x == y then some .eq else if y < x then some .gt else none

def compareMixed (n : Int) (x : Float) : Option Ordering :=
  if x.isNaN then none
  else if !x.isFinite then some (if 0 < x then .lt else .gt)
  else
    let whole := Number.truncate x
    if n < whole then some .lt
    else if whole < n then some .gt
    else compareFloats 0 (x - (if x < 0 then x.ceil else x.floor))

def flipped : Ordering → Ordering
  | .lt => .gt
  | .gt => .lt
  | .eq => .eq

def bigOfText? (text : Units) : Option Int :=
  let trimmed := (Number.trim text).toText.toList
  if trimmed.isEmpty then some 0 else Decimal.int? trimmed

def comparePrimitives (a b : Value) : Option Ordering :=
  match a, b with
  | .integer m, .integer n => some (compare m n)
  | .text s, .text t => some (if s.precedes t then .lt else if s == t then .eq else .gt)
  | .bigint m, .bigint n => some (compare m n)
  | .bigint m, .text t => (bigOfText? t).map fun n => compare m n
  | .text s, .bigint n => (bigOfText? s).map fun m => compare m n
  | .bigint m, b => (number b).bind fun y => compareMixed m y
  | a, .bigint n => (number a).bind fun x => (compareMixed n x).map flipped
  | a, b =>
    match number a, number b with
    | some x, some y => compareFloats x y
    | _, _ => none
where
  number : Value → Option Float
    | .undefined => some Number.nan
    | .null => some 0
    | .boolean b => some (if b then 1 else 0)
    | .text text => some (Number.ofUnits text)
    | other => other.float?

variable [Engine]

def comparable (value : Value) : Execution Value := do
  match ← value.toPrimitive .number with
  | .symbol _ => throwType "cannot convert symbol to number"
  | primitive => return primitive

/-- How two values compare; the left one is converted first. -/
def compareValues (a b : Value) : Execution (Option Ordering) := do
  let a ← comparable a
  let b ← comparable b
  return comparePrimitives a b

def equalPrimitives (a b : Value) : Bool :=
  match a, b with
  | .null, .undefined => true
  | .undefined, .null => true
  | .boolean _, .boolean _ => Value.same a b
  | .bigint _, .bigint _ => Value.same a b
  | .bigint m, .text t => bigOfText? t == some m
  | .text s, .bigint n => bigOfText? s == some n
  | .text _, .text _ => Value.same a b
  | .symbol _, _ => Value.same a b
  | _, .symbol _ => Value.same a b
  | .null, _ => Value.same a b
  | .undefined, _ => Value.same a b
  | _, .null => false
  | _, .undefined => false
  | .object _, _ => Value.same a b
  | _, .object _ => Value.same a b
  | a, b => comparePrimitives a b == some .eq

def looselyEqual (a b : Value) : Execution Bool := do
  match a, b with
  | .object _, .object _ => return Value.same a b
  | .object _, .null => return false
  | .object _, .undefined => return false
  | .null, .object _ => return false
  | .undefined, .object _ => return false
  | .object _, b => return equalPrimitives (← a.toPrimitive .any) b
  | a, .object _ => return equalPrimitives a (← b.toPrimitive .any)
  | a, b => return equalPrimitives a b

def longestText : Nat := 1073741823

def joinTexts (a b : Units) : Execution Value := do
  if longestText < a.size + b.size then throwNew .internalError "string too long"
  else
    if 256 ≤ a.size + b.size then charge (a.size + b.size + 24)
    return .text (a ++ b)

def canJoin (machine : Machine) (a b : Units) : Bool :=
  let size := a.size + b.size
  size ≤ longestText && match machine.limit with
    | some limit => size < 256 || machine.charged + size + 24 ≤ limit
    | none => true

/-- Whether two texts are equal; quick, if they are the same one. -/
def sameText (a b : Units) : Bool :=
  withPtrEq a b (fun _ => a == b) (by intro equal; simp [equal])

def addValues (a b : Value) : Execution Value := do
  match a, b with
  | .integer _, .integer _ => return a.add b
  | .text s, .text t => joinTexts s t
  | a, b =>
    let a ← a.toPrimitive .any
    let b ← b.toPrimitive .any
    match a, b with
    | .text s, b => joinTexts s (← b.toUnits)
    | a, .text t => joinTexts (← a.toUnits) t
    | a, b =>
      match ← a.toNumeric, ← b.toNumeric with
      | .bigint m, .bigint n => return .bigint (m + n)
      | .bigint _, _ => throwType "cannot convert to BigInt"
      | _, .bigint _ => throwType "cannot convert to BigInt"
      | a, b => return a.add b

def longestBig : Nat := 1048576

def checkBig (n : Int) : Execution Value := do
  if Nat.pow 2 longestBig ≤ n.natAbs then throwNew .rangeError "BigInt is too large to allocate"
  else return .bigint n

def bigArithmetic (operator : BinaryOperator) (m n : Int) : Execution Value := do
  match operator with
  | .subtract => return .bigint (m - n)
  | .multiply => checkBig (m * n)
  | .divide =>
    if n = 0 then throwNew .rangeError "BigInt division by zero" else return .bigint (m.tdiv n)
  | .modulo =>
    if n = 0 then throwNew .rangeError "BigInt division by zero" else return .bigint (m.tmod n)
  | .power =>
    if n < 0 then throwNew .rangeError "BigInt negative exponent"
    else if m = 0 || m = 1 || m = -1 then
      return .bigint (if n = 0 then 1 else if m = -1 && n % 2 = 0 then 1 else m)
    else if (longestBig : Int) < n then throwNew .rangeError "BigInt is too large to allocate"
    else checkBig (Int.pow m n.toNat)
  | .shiftLeft => shift m n
  | .shiftRight => shift m (-n)
  | .shiftRightUnsigned => throwType "BigInts have no unsigned right shift, use >> instead"
  | .bitAnd => return .bigint (bits (fun a b => a && b) m n)
  | .bitOr => return .bigint (bits (fun a b => a || b) m n)
  | .bitXor => return .bigint (bits (fun a b => a != b) m n)
  | _ => return .bigint (m + n)
where
  shift (m n : Int) : Execution Value := do
    if 0 ≤ n then
      if (longestBig : Int) < n then
        if m = 0 then return .bigint 0 else throwNew .rangeError "BigInt is too large to allocate"
      else checkBig (m * Int.pow 2 n.toNat)
    else if (longestBig : Int) < -n then return .bigint (if m < 0 then -1 else 0)
    else return .bigint (m.fdiv (Int.pow 2 (-n).toNat))
  /-- Combines the digits of two numbers in base two, negative ones in two's complement. -/
  bits (combine : Bool → Bool → Bool) (m n : Int) : Int :=
    let width := max m.natAbs.log2 n.natAbs.log2 + 2
    let size : Nat := Nat.pow 2 width
    let a := (m % (size : Int)).toNat
    let b := (n % (size : Int)).toNat
    let result := (List.range width).foldl (fun result place =>
      if combine (a.testBit place) (b.testBit place) then result + Nat.pow 2 place else result) 0
    Int.bmod result size

def integerArithmetic (operator : BinaryOperator) (m n : Int) : Value :=
  let a := m.toInt32
  let b := n.toInt32
  let distance := (n % 32).toNat
  match operator with
  | .shiftLeft => .ofInt (a <<< distance.toUInt32.toInt32).toInt
  | .shiftRight => .ofInt (m.fdiv (Int.pow 2 distance))
  | .shiftRightUnsigned => .ofNat ((m % 4294967296).toNat / Nat.pow 2 distance)
  | .bitAnd => .ofInt (a &&& b).toInt
  | .bitOr => .ofInt (a ||| b).toInt
  | _ => .ofInt (a ^^^ b).toInt

def arithmetic (operator : BinaryOperator) (a b : Value) : Execution Value := do
  match ← a.toNumeric, ← b.toNumeric with
  | .bigint m, .bigint n => bigArithmetic operator m n
  | .bigint _, _ => throwType "cannot convert to BigInt"
  | _, .bigint _ => throwType "cannot convert to BigInt"
  | a, b =>
    match operator with
    | .subtract => return a.subtract b
    | .multiply => return a.multiply b
    | .divide => return a.divide b
    | .modulo => return a.modulo b
    | .power => return a.exponentiate b
    | operator => return integerArithmetic operator (← a.toInt32) (← b.toInt32)

def hasParent (wanted : Ref) : Nat → Ref → Execution Bool
  | 0, _ => stackOverflow
  | steps + 1, ref => do
    match ← ref.parent with
    | none => return false
    | some parent => if parent = wanted then return true else hasParent wanted steps parent

def ordinaryInstance (value constructor : Value) : Nat → Execution Bool
  | 0 => stackOverflow
  | depth + 1 => do
    if !(← isCallable constructor) then return false
    else match constructor with
      | .object function =>
        match ← kindOf function with
        | .bound target _ _ => ordinaryInstance value (.object target) depth
        | _ =>
          match value with
          | .object ref =>
            match ← constructor.get prototypeKey with
            | .object wanted => hasParent wanted longestChain ref
            | _ => throwType "operand 'prototype' property is not an object"
          | _ => return false
      | _ => return false

def instanceOf (value constructor : Value) : Execution Bool := do
  match constructor with
  | .object _ =>
    match ← constructor.getMethod WellKnown.hasInstance.key with
    | some function => return (← call function constructor #[value]).truthy
    | none =>
      if ← isCallable constructor then ordinaryInstance value constructor proxyDepth
      else throwType "invalid 'instanceof' right operand"
  | _ => throwType "invalid 'instanceof' right operand"

def hasProperty (key object : Value) : Execution Bool := do
  match object with
  | .object ref => ref.has (← key.toKey)
  | _ => throwType "invalid 'in' operand"

def binaryOperation (operator : BinaryOperator) (a b : Value) : Execution Value := do
  match operator with
  | .add => addValues a b
  | .equal => return .boolean (← looselyEqual a b)
  | .notEqual => return .boolean (!(← looselyEqual a b))
  | .same => return .boolean (Value.same a b)
  | .notSame => return .boolean (!Value.same a b)
  | .less => return .boolean ((← compareValues a b) == some .lt)
  | .greater => return .boolean ((← compareValues a b) == some .gt)
  | .lessEqual =>
    let order ← compareValues a b
    return .boolean (order == some .lt || order == some .eq)
  | .greaterEqual =>
    let order ← compareValues a b
    return .boolean (order == some .gt || order == some .eq)
  | .instanceOf => return .boolean (← instanceOf a b)
  | .contains => return .boolean (← hasProperty a b)
  | operator => arithmetic operator a b

def unaryOperation (operator : UnaryOperator) (value : Value) : Execution Value := do
  match operator with
  | .minus =>
    match ← value.toNumeric with
    | .bigint n => return .bigint (-n)
    | number => return number.negate
  | .plus => value.toNumber
  | .not => return .boolean (!value.truthy)
  | .complement =>
    match ← value.toNumeric with
    | .bigint n => return .bigint (-n - 1)
    | number => return .ofInt (-(← number.toInt32) - 1)
  | .void => return .undefined
  | .typeOf => return .ofString (← gets fun machine => typeName machine.heap value)

def countValue (up : Bool) (value : Value) : Execution Value := do
  match value with
  | .bigint n => return .bigint (if up then n + 1 else n - 1)
  | .integer n => return .ofInt (if up then n + 1 else n - 1)
  | other => return .number ((Value.float? other).getD Number.nan + (if up then 1 else -1))

end ScriptSandbox.Script
