/-!
From decimal text to numbers. A decimal `coefficient · 10^exponent` is rounded to the nearest double;
exponents far outside the range of doubles are settled without computing their powers.
-/

namespace ScriptSandbox.Decimal

def nearest (coefficient : Nat) (exponent : Int) : Float :=
  if coefficient = 0 then 0
  else
    let place := exponent + ((Nat.toDigits 10 coefficient).length : Int)
    if 310 < place then 1.0 / 0.0
    else if place < -330 then 0
    else if 0 ≤ exponent then Float.ofScientific coefficient false exponent.toNat
    else Float.ofScientific coefficient true (-exponent).toNat

def ofInt (n : Int) : Float :=
  if n < 0 then -(nearest n.natAbs 0) else nearest n.natAbs 0

def digitValue (c : Char) : Nat := c.toNat - '0'.toNat

def ofDigits (digits : List Char) : Nat :=
  digits.foldl (fun n c => n * 10 + digitValue c) 0

def ofParts (whole fraction : List Char) (exponent : Int) : Float :=
  nearest (ofDigits (whole ++ fraction)) (exponent - fraction.length)

/-- Signed digits as an integer; nothing but one sign and at least one digit is accepted. -/
def int? (text : List Char) : Option Int :=
  let (negative, digits) := match text with
    | '-' :: rest => (true, rest)
    | '+' :: rest => (false, rest)
    | _ => (false, text)
  if digits.isEmpty || !digits.all Char.isDigit then none
  else some (if negative then -(ofDigits digits : Int) else (ofDigits digits : Int))

end ScriptSandbox.Decimal
