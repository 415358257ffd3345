import ScriptSandbox.Script.Functions

/-!
Functions of numbers. Results are whole where they can be kept as such.
-/

namespace ScriptSandbox.Script.Library

open Execution

/-- Rounds to the nearest whole number, a half upwards. -/
def roundUp (x : Float) : Float :=
  if !x.isFinite || 4503599627370496 ≤ x.abs then x
  else
    let low := x.floor
    let near := if x - low < 0.5 then low else low + 1
    if near == 0 && (x < 0 || Number.isNegativeZero x) then -0.0 else near

/-- The logarithm of one more than a number, exact near zero. -/
def logAboveOne (x : Float) : Float :=
  let u := 1 + x
  if u == 1 then x else if !u.isFinite then u else u.log * (x / (u - 1))

/-- One less than an exponential, exact near zero. -/
def expBelowOne (x : Float) : Float :=
  let u := x.exp
  if u == 1 then x
  else
    let less := u - 1
    if less == -1 || !u.isFinite then less else less * (x / u.log)

def signOf (x : Float) : Float := if x.isNaN || x == 0 then x else if x < 0 then -1 else 1

def wholePart (x : Float) : Float := if x < 0 then x.ceil else if x == 0 then x else x.floor

def nextRandom : Execution Float := fun machine =>
  let x := machine.seed
  let x := x ^^^ (x >>> 12)
  let x := x ^^^ (x <<< 25)
  let x := x ^^^ (x >>> 27)
  let bits := ((x * 0x2545F4914F6CDD1D) >>> 12) ||| 0x3FF0000000000000
  .done (.value (Float.ofBits bits - 1) { machine with seed := x })

variable [Engine]

def floatMethod (name : String) (apply : Float → Float) : Method :=
  method name 1 fun call => do return .ofFloat (apply (← call.first.toFloat))

def extreme (call : Call) (start : Float) (choose : Float → Float → Float) : Execution Value := do
  let values ← call.arguments.mapM Value.toNumber
  let floats := values.map fun value => (Value.float? value).getD Number.nan
  if values.isEmpty then return .number start
  else return .ofFloat (floats.foldl choose start)

def lesser (a b : Float) : Float :=
  if a.isNaN then a else if b.isNaN then b
  else if a == 0 && b == 0 then (if Number.isNegativeZero a then a else b)
  else if b < a then b else a

def greater (a b : Float) : Float :=
  if a.isNaN then a else if b.isNaN then b
  else if a == 0 && b == 0 then (if Number.isNegativeZero a then b else a)
  else if a < b then b else a

def hypotenuse (values : Array Float) : Float :=
  if values.any fun x => x.abs == Number.infinity then Number.infinity
  else if values.any (·.isNaN) then Number.nan
  else
    let largest := values.foldl (fun most x => greater most x.abs) 0
    if largest == 0 then 0
    else if values.size = 1 then largest
    else (values.foldl (fun sum x => sum + (x / largest) * (x / largest)) 0).sqrt * largest

def mathMethods : List Method := [
  method "min" 2 fun call => extreme call Number.infinity lesser,
  method "max" 2 fun call => extreme call (-Number.infinity) greater,
  floatMethod "abs" Float.abs,
  floatMethod "floor" Float.floor,
  floatMethod "ceil" Float.ceil,
  floatMethod "round" roundUp,
  floatMethod "sqrt" Float.sqrt,
  floatMethod "acos" Float.acos,
  floatMethod "asin" Float.asin,
  floatMethod "atan" Float.atan,
  method "atan2" 2 fun call => do
    let y ← call.first.toFloat
    return .ofFloat (Float.atan2 y (← call.second.toFloat)),
  floatMethod "cos" Float.cos,
  floatMethod "exp" Float.exp,
  floatMethod "log" Float.log,
  method "pow" 2 fun call => do
    let base ← call.first.toFloat
    return .ofFloat (Number.power base (← call.second.toFloat)),
  floatMethod "sin" Float.sin,
  floatMethod "tan" Float.tan,
  floatMethod "trunc" wholePart,
  floatMethod "sign" signOf,
  floatMethod "cosh" Float.cosh,
  floatMethod "sinh" Float.sinh,
  floatMethod "tanh" Float.tanh,
  floatMethod "acosh" Float.acosh,
  floatMethod "asinh" Float.asinh,
  floatMethod "atanh" Float.atanh,
  floatMethod "expm1" expBelowOne,
  floatMethod "log1p" logAboveOne,
  floatMethod "log2" Float.log2,
  floatMethod "log10" Float.log10,
  floatMethod "cbrt" Float.cbrt,
  method "hypot" 2 fun call => do
    return .ofFloat (hypotenuse (← call.arguments.mapM Value.toFloat)),
  method "random" 0 fun _ => do return .number (← nextRandom),
  floatMethod "fround" fun x => x.toFloat32.toFloat,
  method "imul" 2 fun call => do
    let a ← call.first.toInt32
    let b ← call.second.toInt32
    return .integer (Int.bmod (a * b) 4294967296),
  method "clz32" 1 fun call => do
    let n ← call.first.toUInt32
    return .ofNat (if n = 0 then 32 else 31 - n.log2)]

def mathConstants : List (String × Float) := [
  ("E", 2.718281828459045), ("LN10", 2.302585092994046), ("LN2", 0.6931471805599453),
  ("LOG2E", 1.4426950408889634), ("LOG10E", 0.4342944819032518), ("PI", 3.141592653589793),
  ("SQRT1_2", 0.7071067811865476), ("SQRT2", 1.4142135623730951)]

end ScriptSandbox.Script.Library
