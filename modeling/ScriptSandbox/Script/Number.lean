import ScriptSandbox.Decimal.Reading
import ScriptSandbox.Script.Value

/-!
Numbers of scripts: their texts in both directions, the integers modulo `2^32` that bit operations work
on, and arithmetic that keeps integers where it can.
-/

namespace ScriptSandbox.Script

namespace Number

/-- Numbers stand without an exponent from `0.000001` up to `10^21`. -/
def layout : Decimal.Layout :=
  { least := -6, bound := 21, wholeSuffix := "", positiveSign := "+", signedZero := false
    nan := "NaN", infinity := "Infinity" }

def nan : Float := 0.0 / 0.0

def infinity : Float := 1.0 / 0.0

def isNegativeZero (x : Float) : Bool := x == 0 && x.toBits != 0

def text (x : Float) : String := layout.write x

def isBlank (unit : UInt16) : Bool :=
  (9 ≤ unit && unit ≤ 13) || unit == 0x20 || unit == 0xA0 || unit == 0x1680 ||
  (0x2000 ≤ unit && unit ≤ 0x200A) || unit == 0x2028 || unit == 0x2029 || unit == 0x202F ||
  unit == 0x205F || unit == 0x3000 || unit == 0xFEFF

def trimStart (text : Units) : Units :=
  text.extract (text.toList.takeWhile isBlank).length text.size

def trimEnd (text : Units) : Units :=
  text.extract 0 (text.size - (text.toList.reverse.takeWhile isBlank).length)

def trim (text : Units) : Units := trimStart (trimEnd text)

/-- The digits of ASCII text; other units become a character that is no digit. -/
def asciiChars (text : Units) : List Char :=
  text.toList.map fun unit => if unit < 0x80 then Char.ofNat unit.toNat else '\uFFFD'

def digitValue? (c : Char) : Option Nat :=
  if '0' ≤ c ∧ c ≤ '9' then some (c.toNat - 48)
  else if 'a' ≤ c ∧ c ≤ 'z' then some (c.toNat - 87)
  else if 'A' ≤ c ∧ c ≤ 'Z' then some (c.toNat - 55)
  else none

def ofDigits (base : Nat) (digits : List Char) : Nat :=
  digits.foldl (fun n c => n * base + (digitValue? c).getD 0) 0

def areDigits (base : Nat) (digits : List Char) : Bool :=
  !digits.isEmpty && digits.all fun c => (digitValue? c).any (· < base)

def decimalStart? (input : List Char) : Option (Float × List Char) :=
  let infinityText := "Infinity".toList
  if input.take 8 = infinityText then some (infinity, input.drop 8)
  else
    let whole := input.takeWhile Char.isDigit
    let rest := input.dropWhile Char.isDigit
    let (fraction, rest) := match rest with
      | '.' :: after => (after.takeWhile Char.isDigit, after.dropWhile Char.isDigit)
      | _ => ([], rest)
    if whole.isEmpty && fraction.isEmpty then none
    else
      let (exponent, rest) : Int × List Char := match rest with
        | c :: after =>
          if c = 'e' ∨ c = 'E' then
            let (negative, digits) := match after with
              | '-' :: after => (true, after)
              | '+' :: after => (false, after)
              | _ => (false, after)
            let found := digits.takeWhile Char.isDigit
            if found.isEmpty then (0, rest)
            else
              let size : Int := Decimal.ofDigits found
              (if negative then -size else size, digits.dropWhile Char.isDigit)
          else (0, rest)
        | [] => (0, rest)
      some (Decimal.ofParts whole fraction exponent, rest)

/-- The number that a whole text writes; an empty one is zero, and most are not numbers. -/
def ofUnits (text : Units) : Float :=
  match asciiChars (trim text) with
  | [] => 0
  | '0' :: mark :: digits =>
    let base := if mark = 'x' ∨ mark = 'X' then 16 else if mark = 'o' ∨ mark = 'O' then 8
      else if mark = 'b' ∨ mark = 'B' then 2 else 0
    if 0 < base then
      if areDigits base digits then Decimal.nearest (ofDigits base digits) 0 else nan
    else match decimalStart? ('0' :: mark :: digits) with
      | some (x, []) => x
      | _ => nan
  | '-' :: rest =>
    match decimalStart? rest with
    | some (x, []) => -x
    | _ => nan
  | '+' :: rest =>
    match decimalStart? rest with
    | some (x, []) => x
    | _ => nan
  | chars =>
    match decimalStart? chars with
    | some (x, []) => x
    | _ => nan

def truncate (x : Float) : Int :=
  match Binary.ofBits? x.toBits with
  | none => 0
  | some binary =>
    let size : Nat := if 0 ≤ binary.exponent then binary.significand * Nat.pow 2 binary.exponent.toNat
      else binary.significand / Nat.pow 2 (-binary.exponent).toNat
    if Double.isNegative x then -(size : Int) else size

def toInt32 (x : Float) : Int := Int.bmod (truncate x) 4294967296

def toUInt32 (x : Float) : Nat := (truncate x % 4294967296).toNat

/-- The remainder of a division that rounds toward zero; it has the sign of the dividend. -/
def remainder (a b : Float) : Float :=
  if !a.isFinite || b.isNaN || b == 0 then nan
  else if !b.isFinite || a == 0 then a
  else
    match Binary.ofBits? a.toBits, Binary.ofBits? b.toBits with
    | some x, some y =>
      let low := min x.exponent y.exponent
      let p := x.significand * Nat.pow 2 (x.exponent - low).toNat
      let q := y.significand * Nat.pow 2 (y.exponent - low).toNat
      let r := p % q
      let size := if 0 ≤ low then Decimal.nearest (r * Nat.pow 2 low.toNat) 0
        else Float.scaleB (Float.ofNat r) low
      if a < 0 then -size else if r = 0 && isNegativeZero a then a
      else size
    | _, _ => nan

/-- Powers, where one to an infinite power is not a number. -/
def power (a b : Float) : Float :=
  if b.isNaN then nan
  else if b == 0 then 1
  else if (a == 1 || a == -1) && !b.isFinite then nan
  else Float.pow a b

/-- Digits of a number in a base, with a fraction as long as it distinguishes the number. -/
def inBase (base : Nat) (x : Float) : String :=
  if x.isNaN then "NaN"
  else if x == 0 then "0"
  else
    let sign := if x < 0 then "-" else ""
    let size := x.abs
    if !size.isFinite then sign ++ "Infinity"
    else
      match Binary.ofBits? size.toBits with
      | none => "NaN"
      | some binary =>
        -- The value and half the distance to its neighbours, as multiples of one unit.
        let low : Int := min (binary.exponent - 1) 0
        let unit := Nat.pow 2 (-low).toNat
        let value := binary.significand * Nat.pow 2 (binary.exponent - low).toNat
        let half := Nat.pow 2 (binary.exponent - 1 - low).toNat
        let whole := value / unit
        let digitChar (d : Nat) : Char :=
          if d < 10 then Char.ofNat (48 + d) else Char.ofNat (87 + d)
        let rec fraction (steps rest half : Nat) (done : List Nat) : List Nat × Bool :=
          match steps with
          | 0 => (done, false)
          | steps + 1 =>
            if rest < half || rest = 0 then (done, false)
            else
              let scaled := rest * base
              let digit := scaled / unit
              let rest := scaled % unit
              let half := half * base
              if unit < rest + half ∨ (unit = rest + half ∧ unit < 2 * rest) then
                if unit < 2 * rest then (digit :: done, true)
                else fraction steps rest half (digit :: done)
              else fraction steps rest half (digit :: done)
        let (digits, roundUp) := fraction 1100 (value % unit) half []
        let rec carry : List Nat → List Nat × Bool
          | [] => ([], true)
          | d :: rest =>
            if d + 1 < base then ((d + 1) :: rest, false)
            else
              let (rest, carried) := carry rest
              (0 :: rest, carried)
        let (digits, carried) := if roundUp then carry digits else (digits, false)
        let whole := if carried then whole + 1 else whole
        let kept := (digits.dropWhile (· == 0)).reverse
        let wholeText := String.ofList ((Nat.toDigits 10 0).take 0 ++
          (let rec wholeDigits (steps n : Nat) (done : List Char) : List Char :=
            match steps with
            | 0 => done
            | steps + 1 => if n = 0 then done
              else wholeDigits steps (n / base) (digitChar (n % base) :: done)
          wholeDigits 1100 whole []))
        sign ++ (if wholeText.isEmpty then "0" else wholeText) ++
          (if kept.isEmpty then "" else "." ++ String.ofList (kept.map digitChar))

/-- A finite size as a whole number of `10^-places`, halves rounded up. -/
def scaled (size : Float) (places : Int) : Nat :=
  match Binary.ofBits? size.toBits with
  | none => 0
  | some binary =>
    let up := binary.significand * Nat.pow 2 binary.exponent.toNat * Nat.pow 10 places.toNat
    let down := Nat.pow 2 (-binary.exponent).toNat * Nat.pow 10 (-places).toNat
    (2 * up + down) / (2 * down)

def fixed (places : Nat) (x : Float) : String :=
  if x.isNaN then "NaN"
  else if 1e21 ≤ x.abs then text x
  else
    let digits := Nat.toDigits 10 (scaled x.abs places)
    let padded := List.replicate (places + 1 - digits.length) '0' ++ digits
    let whole := padded.take (padded.length - places)
    let sign := if x < 0 then "-" else ""
    sign ++ String.ofList whole ++
      (if places = 0 then "" else "." ++ String.ofList (padded.drop (padded.length - places)))

def significant (count : Nat) (size : Float) : List Char × Int :=
  match Binary.ofBits? size.toBits with
  | none => ([], 0)
  | some binary =>
    let place := binary.leadingPlace
    let n := scaled size ((count : Int) - 1 - place)
    if Nat.pow 10 count ≤ n then (Nat.toDigits 10 (n / 10), place + 1) else (Nat.toDigits 10 n, place)

def exponentText (digits : List Char) (place : Int) : String :=
  let mantissa := match digits with
    | [] => "0"
    | [digit] => String.singleton digit
    | digit :: rest => String.singleton digit ++ "." ++ String.ofList rest
  mantissa ++ "e" ++ (if place < 0 then "-" else "+") ++ toString place.natAbs

/-- A number with one digit before the point and an exponent; without a count of digits after the
point, with as many as distinguish it. -/
def exponential (places : Option Nat) (x : Float) : String :=
  if x.isNaN then "NaN"
  else
    let sign := if x < 0 then "-" else ""
    let size := x.abs
    if !size.isFinite then sign ++ "Infinity"
    else if size == 0 then
      sign ++ exponentText ('0' :: List.replicate (places.getD 0) '0') 0
    else match places with
      | some places =>
        let (digits, place) := significant (places + 1) size
        sign ++ exponentText digits place
      | none =>
        match Binary.ofBits? size.toBits with
        | none => sign
        | some binary =>
          let (digits, place) := binary.shortest.normalized
          sign ++ exponentText digits place

def precise (count : Nat) (x : Float) : String :=
  if x.isNaN then "NaN"
  else
    let sign := if x < 0 then "-" else ""
    let size := x.abs
    if !size.isFinite then sign ++ "Infinity"
    else
      let (digits, place) := if size == 0 then (List.replicate count '0', 0)
        else significant count size
      if place < -6 ∨ (count : Int) ≤ place then sign ++ exponentText digits place
      else if place < 0 then
        sign ++ "0." ++ String.ofList (List.replicate (-place - 1).toNat '0' ++ digits)
      else
        let whole := digits.take (place.toNat + 1)
        let rest := digits.drop (place.toNat + 1)
        sign ++ String.ofList whole ++ (if rest.isEmpty then "" else "." ++ String.ofList rest)

end Number

namespace Value

def float? : Value → Option Float
  | .integer n => some (Float.ofInt n)
  | .number x => some x
  | _ => none

def add (a b : Value) : Value :=
  match a, b with
  | .integer m, .integer n => ofInt (m + n)
  | a, b => .number ((float? a).getD Number.nan + (float? b).getD Number.nan)

def subtract (a b : Value) : Value :=
  match a, b with
  | .integer m, .integer n => ofInt (m - n)
  | a, b => .number ((float? a).getD Number.nan - (float? b).getD Number.nan)

def multiply (a b : Value) : Value :=
  match a, b with
  | .integer m, .integer n =>
    let product := m * n
    if product = 0 ∧ (m < 0 ∨ n < 0) then .number (-0.0) else ofInt product
  | a, b => .number ((float? a).getD Number.nan * (float? b).getD Number.nan)

def divide (a b : Value) : Value :=
  ofFloat ((float? a).getD Number.nan / (float? b).getD Number.nan)

def modulo (a b : Value) : Value :=
  match a, b with
  | .integer m, .integer n =>
    if 0 ≤ m ∧ 0 < n then .integer (m % n)
    else ofFloat (Number.remainder (Float.ofInt m) (Float.ofInt n))
  | a, b => ofFloat (Number.remainder ((float? a).getD Number.nan) ((float? b).getD Number.nan))

def exponentiate (a b : Value) : Value :=
  ofFloat (Number.power ((float? a).getD Number.nan) ((float? b).getD Number.nan))

def negate : Value → Value
  | .integer 0 => .number (-0.0)
  | .integer n => ofInt (-n)
  | value => .number (-((float? value).getD Number.nan))

end Value

end ScriptSandbox.Script
