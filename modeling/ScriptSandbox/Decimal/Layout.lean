import ScriptSandbox.Decimal.Shortest

/-!
Writing floating-point numbers. All layouts write the shortest decimal that reads back; they differ in
which magnitudes stand without an exponent, in the sign of the exponent, and in the special values.
-/

namespace ScriptSandbox.Decimal

structure Layout where
  /-- The least place of the leading digit at which no exponent is written. -/
  least : Int
  /-- From this place of the leading digit on, an exponent is written. -/
  bound : Int
  /-- A whole number without an exponent ends with this. -/
  wholeSuffix : String
  /-- Stands before a positive exponent. -/
  positiveSign : String
  /-- Whether negative zero keeps its sign. -/
  signedZero : Bool
  nan : String
  infinity : String

namespace Layout

def positional (layout : Layout) (digits : List Char) (place : Int) : String :=
  if place < 0 then
    "0." ++ String.ofList (List.replicate (-place - 1).toNat '0' ++ digits)
  else
    let whole := place.toNat + 1
    if digits.length ≤ whole then
      String.ofList (digits ++ List.replicate (whole - digits.length) '0') ++ layout.wholeSuffix
    else
      String.ofList (digits.take whole) ++ "." ++ String.ofList (digits.drop whole)

def scientific (layout : Layout) (digits : List Char) (place : Int) : String :=
  let mantissa := match digits with
    | [] => "0"
    | [digit] => String.singleton digit
    | digit :: more => String.singleton digit ++ "." ++ String.ofList more
  let exponent := if place < 0 then "-" ++ toString place.natAbs
    else layout.positiveSign ++ toString place.natAbs
  mantissa ++ "e" ++ exponent

def write (layout : Layout) (x : Float) : String :=
  let bits := x.toBits
  let negative := bits >>> 63 == 1
  let sign := if negative then "-" else ""
  match Binary.ofBits? bits with
  | none => if x.isNaN then layout.nan else sign ++ layout.infinity
  | some ⟨0, _, _⟩ => (if layout.signedZero then sign else "") ++ "0" ++ layout.wholeSuffix
  | some binary =>
    let (digits, place) := binary.shortest.normalized
    sign ++ (if layout.least ≤ place && place < layout.bound then layout.positional digits place
      else layout.scientific digits place)

end Layout

end ScriptSandbox.Decimal
