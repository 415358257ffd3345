import ScriptSandbox.Decimal.Shortest

/-!
Doubles and whole numbers: the whole number that a double is, and the double nearest to a whole number.
-/

namespace ScriptSandbox.Double

def size? (binary : Binary) : Option Nat :=
  if 0 ≤ binary.exponent then some (binary.significand * Nat.pow 2 binary.exponent.toNat)
  else
    let unit := Nat.pow 2 (-binary.exponent).toNat
    if binary.significand % unit = 0 then some (binary.significand / unit) else none

def isNegative (x : Float) : Bool := 0x8000000000000000 ≤ x.toBits

/-- The whole number that a double is, if it is one. Both zeros are zero. -/
def whole? (x : Float) : Option Int :=
  match Binary.ofBits? x.toBits with
  | none => none
  | some binary =>
    match size? binary with
    | none => none
    | some size => some (if isNegative x then -(size : Int) else size)

def infinityBits : Nat := 0x7FF0000000000000

/-- A number with its last binary places dropped, rounded to the nearest, of two equally near the even one. -/
def dropped (n places : Nat) : Nat :=
  let unit := Nat.pow 2 places
  let kept := n / unit
  let rest := n % unit
  if 2 * rest < unit ∨ 2 * rest = unit ∧ kept % 2 = 0 then kept else kept + 1

/-- The bits of the double nearest to a number. The leading digit of the number counts into the exponent
field, and so does the carry if rounding up makes the number one digit longer. -/
def bitsOf (n : Nat) : Nat :=
  if n = 0 then 0
  else
    let field := n.log2 + 1022
    let fraction := if n.log2 ≤ 52 then n * Nat.pow 2 (52 - n.log2) else dropped n (n.log2 - 52)
    min (field * 0x10000000000000 + fraction) infinityBits

def ofInt (n : Int) : Float :=
  Float.ofBits (UInt64.ofNat (bitsOf n.natAbs + if n < 0 then 0x8000000000000000 else 0))

end ScriptSandbox.Double
