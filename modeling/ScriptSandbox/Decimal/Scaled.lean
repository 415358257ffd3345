import ScriptSandbox.Decimal.Reading
import ScriptSandbox.Decimal.Whole

/-!
From decimal text to doubles by two roundings. Digits are gathered as long as the number that they write fits
64 bits; this number and a power of ten are rounded each on its own, and then multiplied or divided. The result may
be a neighbour of the nearest double, and some decimals near the largest double are too large only in this way.
-/

namespace ScriptSandbox.Decimal

/-- Digits behind the number `front`: what they write as far as it fits, and how many digits are left. -/
def gather (front : Nat) : List Char → Nat × Nat
  | [] => (front, 0)
  | digit :: rest =>
    let more := front * 10 + digitValue digit
    if more < 0x10000000000000000 then gather more rest else (front, rest.length + 1)

/-- A double divided by a power of ten, with no divisor above the largest such power that is a double. -/
def shrink (x : Float) (places : Nat) : Float :=
  if places ≤ 308 then x / Double.ofInt (Nat.pow 10 places)
  else if x == 0 then x
  else shrink (x / Double.ofInt (Nat.pow 10 308)) (places - 308)
termination_by places

/-- `n · 10^place` with both factors rounded, if it is not too large. -/
def scaled? (n : Nat) (place : Int) : Option Float :=
  let size := Double.ofInt n
  if place < 0 then some (shrink size (-place).toNat)
  else if place = 0 then some size
  else if place ≤ 308 then
    let product := size * Double.ofInt (Nat.pow 10 place.toNat)
    if product.isFinite then some product else none
  else if n = 0 then some size else none

end ScriptSandbox.Decimal
