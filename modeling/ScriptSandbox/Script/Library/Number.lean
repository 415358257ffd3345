import ScriptSandbox.Script.Functions

/-!
Numbers, booleans and big integers as scripts handle them.
-/

namespace ScriptSandbox.Script.Library

open Execution

/-! ### Booleans -/

def booleanOf (value : Value) : Execution Bool := do
  match value with
  | .boolean b => return b
  | .object ref =>
    match ← kindOf ref with
    | .boxed (.boolean b) => return b
    | _ => throwType "not a boolean"
  | _ => throwType "not a boolean"

def numberOf (value : Value) : Execution Value := do
  match value with
  | .integer _ => return value
  | .number _ => return value
  | .object ref =>
    match ← kindOf ref with
    | .boxed (.integer n) => return .integer n
    | .boxed (.number x) => return .number x
    | _ => throwType "not a number"
  | _ => throwType "not a number"

def bigintOf (value : Value) : Execution Int := do
  match value with
  | .bigint n => return n
  | .object ref =>
    match ← kindOf ref with
    | .boxed (.bigint n) => return n
    | _ => throwType "not a BigInt"
  | _ => throwType "not a BigInt"

variable [Engine]

def makeBoolean : Method :=
  constructor "Boolean" 1 fun call => do
    let value := Value.boolean call.first.truthy
    if call.newTarget.isUndefined then return value
    else return .object (← newFor call.newTarget .booleanPrototype (.boxed value))

def booleanMethods : List Method := [
  method "toString" 0 fun call => do return .text (Value.boolean (← booleanOf call.this)).plainText,
  method "valueOf" 0 fun call => do return .boolean (← booleanOf call.this)]

/-! ### Numbers -/

def makeNumber : Method :=
  constructor "Number" 1 fun call => do
    let value ← match call.arguments[0]? with
      | none => pure (.integer 0)
      | some value => do
        match ← value.toNumeric with
        | .bigint n => pure (.ofInt n)
        | number => pure number
    if call.newTarget.isUndefined then return value
    else return .object (← newFor call.newTarget .numberPrototype (.boxed value))

def baseArgument (value : Value) : Execution Nat := do
  if value.isUndefined then return 10
  else
    let x ← value.toInteger
    if 2 ≤ x && x ≤ 36 then return (Number.truncate x).toNat
    else throwNew .rangeError "radix must be between 2 and 36"

def digitsArgument (value : Value) (least : Nat) : Execution Nat := do
  let x ← value.toInteger
  if Float.ofNat least ≤ x && x ≤ 100 then return (Number.truncate x).toNat
  else throwNew .rangeError "invalid number of digits"

def floatOf (value : Value) : Execution Float := do
  return (Value.float? (← numberOf value)).getD Number.nan

def numberMethods : List Method := [
  method "toExponential" 1 fun call => do
    let x ← floatOf call.this
    let digits ← call.first.toInteger
    if !x.isFinite then return .ofString (Number.text x)
    else if call.first.isUndefined then return .ofString (Number.exponential none x)
    else
      let count ← digitsArgument (.number digits) 0
      return .ofString (Number.exponential (some count) x),
  method "toFixed" 1 fun call => do
    let x ← floatOf call.this
    let count ← digitsArgument call.first 0
    return .ofString (Number.fixed count x),
  method "toPrecision" 1 fun call => do
    let x ← floatOf call.this
    if call.first.isUndefined then return .ofString (Number.text x)
    else
      let digits ← call.first.toInteger
      if !x.isFinite then return .ofString (Number.text x)
      else return .ofString (Number.precise (← digitsArgument (.number digits) 1) x),
  method "toString" 1 fun call => do
    let value ← numberOf call.this
    let base ← baseArgument call.first
    if base = 10 then return .text value.plainText
    else return .ofString (Number.inBase base ((Value.float? value).getD Number.nan)),
  method "toLocaleString" 0 fun call => do
    return .text (← numberOf call.this).plainText,
  method "valueOf" 0 fun call => numberOf call.this]

def isWhole (value : Value) (bound : Float) : Bool :=
  match Value.float? value with
  | some x => x.isFinite && x.floor == x && x.abs ≤ bound
  | none => false

def parseInteger (call : Call) : Execution Value := do
  let text := Number.asciiChars (Number.trimStart (← call.first.toUnits))
  let base ← call.second.toInt32
  let (negative, digits) := match text with
    | '-' :: rest => (true, rest)
    | '+' :: rest => (false, rest)
    | text => (false, text)
  if base != 0 && (base < 2 || 36 < base) then return .number Number.nan
  else
    let (base, digits) : Nat × List Char := match base.toNat, digits with
      | 0, '0' :: 'x' :: rest => (16, rest)
      | 0, '0' :: 'X' :: rest => (16, rest)
      | 16, '0' :: 'x' :: rest => (16, rest)
      | 16, '0' :: 'X' :: rest => (16, rest)
      | 0, digits => (10, digits)
      | base, digits => (base, digits)
    let digits := digits.takeWhile fun c => Number.areDigits base [c]
    if digits.isEmpty then return .number Number.nan
    else
      let x := Float.ofNat (Number.ofDigits base digits)
      return .ofFloat (if negative then -x else x)

def parseDecimal (call : Call) : Execution Value := do
  let text := Number.asciiChars (Number.trimStart (← call.first.toUnits))
  let (negative, digits) := match text with
    | '-' :: rest => (true, rest)
    | '+' :: rest => (false, rest)
    | text => (false, text)
  match Number.decimalStart? digits with
  | some (x, _) => return .ofFloat (if negative then -x else x)
  | none => return .number Number.nan

def parseIntMethod : Method := method "parseInt" 2 parseInteger

def parseFloatMethod : Method := method "parseFloat" 1 parseDecimal

def numberStatics : List Method := [
  method "isNaN" 1 fun call => return .boolean (((Value.float? call.first).map (·.isNaN)).getD false),
  method "isFinite" 1 fun call =>
    return .boolean (((Value.float? call.first).map (·.isFinite)).getD false),
  method "isInteger" 1 fun call => return .boolean (isWhole call.first Number.infinity),
  method "isSafeInteger" 1 fun call => return .boolean (isWhole call.first 9007199254740991)]

def numberConstants : List (String × Float) := [
  ("MAX_VALUE", 1.7976931348623157e308), ("MIN_VALUE", Float.ofBits 1), ("NaN", Number.nan),
  ("NEGATIVE_INFINITY", -Number.infinity), ("POSITIVE_INFINITY", Number.infinity),
  ("EPSILON", 2.220446049250313e-16), ("MAX_SAFE_INTEGER", 9007199254740991),
  ("MIN_SAFE_INTEGER", -9007199254740991)]

/-! ### Big integers -/

def makeBigInt : Method :=
  constructor "BigInt" 1 fun call => do
    if !call.newTarget.isUndefined then throwType "not a constructor"
    else
      match ← call.first.toPrimitive .number with
      | .integer n => return .bigint n
      | .number x =>
        if !x.isFinite then throwNew .rangeError "cannot convert NaN or Infinity to BigInt"
        else if x.floor == x then return .bigint (Number.truncate x)
        else throwNew .rangeError "cannot convert to BigInt: not an integer"
      | value => return .bigint (← value.toBigInt)

def bigintMethods : List Method := [
  method "toString" 0 fun call => do
    let n ← bigintOf call.this
    let base ← baseArgument call.first
    let digits := if base = 10 then toString n.natAbs else String.ofList (digitsIn base n.natAbs)
    newText (Units.ofString ((if n < 0 then "-" else "") ++ digits)),
  method "toLocaleString" 0 fun call => do
    newText (Units.ofString (toString (← bigintOf call.this))),
  method "valueOf" 0 fun call => do return .bigint (← bigintOf call.this)]
where
  digitOf (n : Nat) : Char := Char.ofNat (if n < 10 then 48 + n else 87 + n)
  /-- The digits of a number in a base. -/
  digitsIn (base n : Nat) : List Char :=
    let rec go : Nat → Nat → List Char → List Char
      | 0, _, done => done
      | steps + 1, n, done =>
        let done := digitOf (n % base) :: done
        if n / base = 0 then done else go steps (n / base) done
    go (n.log2 + 1) n []

def bigintStatics : List Method := [
  method "asIntN" 2 fun call => do
    let bits ← call.first.toIndex
    let n ← call.second.toBigInt
    return .bigint (if longestBig < bits then n else Int.bmod n (Nat.pow 2 bits)),
  method "asUintN" 2 fun call => do
    let bits ← call.first.toIndex
    let n ← call.second.toBigInt
    if longestBig < bits then
      if n < 0 then throwNew .rangeError "BigInt is too large to allocate" else return .bigint n
    else return .bigint (n % Int.pow 2 bits)]

end ScriptSandbox.Script.Library
