/-!
Decimal digits of binary floating-point numbers. A finite number is `significand · 2^exponent`; the
reals that round to it form an interval, and its shortest decimal is the one with the fewest digits in
that interval, of several the nearest, of two equally near the one with an even last digit.
-/

namespace ScriptSandbox

structure Binary where
  significand : Nat
  exponent : Int
  /-- The distance to the next smaller number is half the distance to the next larger one. -/
  atBoundary : Bool
  deriving Repr, DecidableEq

structure Decimal where
  coefficient : Nat
  exponent : Int
  deriving Repr, DecidableEq

namespace Binary

/-- The number that the low 63 bits of a double stand for, if it is finite. -/
def ofBits? (bits : UInt64) : Option Binary :=
  let field := (bits >>> 52 &&& 0x7FF).toNat
  let fraction := (bits &&& 0xFFFFFFFFFFFFF).toNat
  if field = 0x7FF then none
  else if field = 0 then some ⟨fraction, -1074, false⟩
  else some ⟨0x10000000000000 + fraction, (field : Int) - 1075, fraction == 0 && 1 < field⟩

/-- The powers of two and ten that scale a quarter of the last binary place against a decimal place:
`value = quarters · up / down` in units of `10^place`. -/
def scale (x : Binary) (place : Int) : Nat × Nat :=
  (Nat.pow 2 (x.exponent - 2).toNat * Nat.pow 10 (-place).toNat,
    Nat.pow 2 (2 - x.exponent).toNat * Nat.pow 10 place.toNat)

/-- Whether a multiple of `10^place` rounds to this number: it lies in the interval, whose ends belong
to it when the significand is even. -/
def contains (x : Binary) (place : Int) (multiple : Nat) : Bool :=
  let (up, down) := x.scale place
  let low := (4 * x.significand - (if x.atBoundary then 1 else 2)) * up
  let high := (4 * x.significand + 2) * up
  let point := multiple * down
  if x.significand % 2 = 0 then low ≤ point && point ≤ high else low < point && point < high

/-- The multiple of `10^place` that rounds to this number and is nearest to it, if there is one. -/
def onGrid? (x : Binary) (place : Int) : Option Nat :=
  let (up, down) := x.scale place
  let value := 4 * x.significand * up
  let below := value / down
  let above := below + 1
  match x.contains place below, x.contains place above with
  | false, false => none
  | true, false => some below
  | false, true => some above
  | true, true =>
    let left := value - below * down
    let right := above * down - value
    some (if left < right then below else if right < left then above
      else if below % 2 = 0 then below else above)

def leadingPlace (x : Binary) : Int :=
  let estimate := (((Nat.log2 x.significand : Nat) : Int) + x.exponent) * 30103 / 100000
  let reaches (place : Int) : Bool :=
    let (up, down) := x.scale place
    down ≤ 4 * x.significand * up
  if reaches (estimate + 1) then estimate + 1 else if reaches estimate then estimate else estimate - 1

def search (x : Binary) (leading : Int) : Nat → Int → Decimal
  | 0, place => ⟨4 * x.significand * (x.scale place).1 / (x.scale place).2, place⟩
  | steps + 1, place =>
    match x.onGrid? place with
    | some multiple => ⟨multiple, place⟩
    | none => search x leading steps (place - 1)

def shortest (x : Binary) : Decimal :=
  if x.significand = 0 then ⟨0, 0⟩ else x.search x.leadingPlace 17 x.leadingPlace

end Binary

namespace Decimal

/-- The digits without zeros at the end, with the place of the leading one: `d.ddd · 10^place`. -/
def normalized (x : Decimal) : List Char × Int :=
  let digits := Nat.toDigits 10 x.coefficient
  let kept := (digits.reverse.dropWhile (· == '0')).reverse
  (if kept.isEmpty then ['0'] else kept, x.exponent + (digits.length : Int) - 1)

end Decimal

end ScriptSandbox
