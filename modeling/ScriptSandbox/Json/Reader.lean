import ScriptSandbox.Decimal.Scaled
import ScriptSandbox.Json.Basic

/-!
Reading JSON. Blanks may stand around every token, values nest at most `maxDepth` deep, text escapes
must write whole characters, and nothing but blanks may follow the value. A number without point and
exponent is an integer if it fits 64 bits; of other numbers the digits that fit 64 bits are scaled by the exponent,
which must give a finite double.
-/

namespace ScriptSandbox.Json

abbrev Reading (α : Type) := List Char → Option (α × List Char)

def maxDepth : Nat := 127

def isBlank (c : Char) : Bool := c == ' ' || c == '\t' || c == '\n' || c == '\r'

def skipBlanks (input : List Char) : List Char := input.dropWhile isBlank

def hexValue? (c : Char) : Option Nat :=
  if '0' ≤ c ∧ c ≤ '9' then some (c.toNat - '0'.toNat)
  else if 'a' ≤ c ∧ c ≤ 'f' then some (c.toNat - 'a'.toNat + 10)
  else if 'A' ≤ c ∧ c ≤ 'F' then some (c.toNat - 'A'.toNat + 10)
  else none

def hexUnit? (a b c d : Char) : Option Nat := do
  return (((← hexValue? a) * 16 + (← hexValue? b)) * 16 + (← hexValue? c)) * 16 + (← hexValue? d)

def shortEscape? : Char → Option Char
  | '"' => some '"'
  | '\\' => some '\\'
  | '/' => some '/'
  | 'b' => some '\x08'
  | 'f' => some '\x0c'
  | 'n' => some '\n'
  | 'r' => some '\r'
  | 't' => some '\t'
  | _ => none

def textBody (done : List Char) : Reading String
  | [] => none
  | '"' :: rest => some (String.ofList done.reverse, rest)
  | '\\' :: 'u' :: a :: b :: c :: d :: rest =>
    match hexUnit? a b c d with
    | none => none
    | some unit =>
      if unit < 0xD800 ∨ 0xE000 ≤ unit then textBody (Char.ofNat unit :: done) rest
      else if 0xDC00 ≤ unit then none
      else match rest with
        | '\\' :: 'u' :: e :: f :: g :: h :: rest =>
          match hexUnit? e f g h with
          | none => none
          | some low =>
            if 0xDC00 ≤ low ∧ low < 0xE000 then
              textBody (Char.ofNat (0x10000 + (unit - 0xD800) * 0x400 + (low - 0xDC00)) :: done) rest
            else none
        | _ => none
  | '\\' :: c :: rest =>
    match shortEscape? c with
    | none => none
    | some written => textBody (written :: done) rest
  | c :: rest => if c.val < 0x20 ∨ c = '\\' then none else textBody (c :: done) rest

def digits (input : List Char) : List Char × List Char :=
  (input.takeWhile Char.isDigit, input.dropWhile Char.isDigit)

def fraction? (input : List Char) : Option (Option (List Char) × List Char) :=
  match input with
  | '.' :: rest =>
    let (found, rest) := digits rest
    if found.isEmpty then none else some (some found, rest)
  | _ => some (none, input)

def exponent? (input : List Char) : Option (Option Int × List Char) :=
  match input with
  | c :: rest =>
    if c = 'e' ∨ c = 'E' then
      let (negative, rest) := match rest with
        | '-' :: rest => (true, rest)
        | '+' :: rest => (false, rest)
        | _ => (false, rest)
      let (found, rest) := digits rest
      if found.isEmpty then none
      else
        let size : Int := Decimal.ofDigits found
        some (some (if negative then -size else size), rest)
    else some (none, input)
  | [] => some (none, input)

/-- A whole number of 64 bits without its sign. A double stands for the integers below those of 64 bits, and for zero
with a minus sign. -/
def wholeNumber (negative : Bool) (size : Nat) : Json :=
  if negative then
    if size = 0 ∨ 0x8000000000000000 < size then .float (-(Double.ofInt size)) else .integer (-(size : Int))
  else .integer size

/-- The number of these parts. An exponent of more than 31 bits is too large for every number but zero. -/
def ofParts? (negative : Bool) (whole : List Char) (fraction : Option (List Char)) (exponent : Option Int) :
    Option Json :=
  let (front, lost) := Decimal.gather 0 whole
  if fraction = none ∧ exponent = none ∧ lost = 0 then some (wholeNumber negative front)
  else
    let digits := fraction.getD []
    let (significand, left) := Decimal.gather front digits
    let power := exponent.getD 0
    if significand ≠ 0 ∧ 0x80000000 ≤ power then none
    else
      (Decimal.scaled? significand (power + lost - (digits.length - left : Nat))).map fun size =>
        .float (if negative then -size else size)

def sign : List Char → Bool × List Char
  | '-' :: rest => (true, rest)
  | input => (false, input)

def number (input : List Char) : Option (Json × List Char) := do
  let (negative, input) := sign input
  let (whole, rest) := digits input
  if whole.isEmpty || (whole.head? == some '0' && 1 < whole.length) then none
  else
    let (fraction, rest) ← fraction? rest
    let (exponent, rest) ← exponent? rest
    return (← ofParts? negative whole fraction exponent, rest)

def sequence (close : Char) (item : Reading α) : Nat → Reading (List α)
  | 0, _ => none
  | steps + 1, input =>
    match item (skipBlanks input) with
    | none => none
    | some (first, rest) =>
      match skipBlanks rest with
      | ',' :: rest =>
        match sequence close item steps rest with
        | none => none
        | some (more, rest) => some (first :: more, rest)
      | c :: rest => if c = close then some ([first], rest) else none
      | [] => none

def bracketed (close : Char) (item : Reading α) (input : List Char) : Option (List α × List Char) :=
  match skipBlanks input with
  | c :: rest => if c = close then some ([], rest) else sequence close item input.length input
  | [] => none

def entry (value : Reading Json) (input : List Char) : Option ((String × Json) × List Char) :=
  match input with
  | '"' :: rest =>
    match textBody [] rest with
    | none => none
    | some (key, rest) =>
      match skipBlanks rest with
      | ':' :: rest =>
        match value (skipBlanks rest) with
        | none => none
        | some (found, rest) => some ((key, found), rest)
      | _ => none
  | _ => none

/-- A value that nests so many levels at most, with no blanks before it. -/
def value : Nat → Reading Json
  | depth, input =>
    match input with
    | '"' :: rest => (textBody [] rest).map fun (written, rest) => (.text written, rest)
    | 'n' :: 'u' :: 'l' :: 'l' :: rest => some (.null, rest)
    | 't' :: 'r' :: 'u' :: 'e' :: rest => some (.boolean true, rest)
    | 'f' :: 'a' :: 'l' :: 's' :: 'e' :: rest => some (.boolean false, rest)
    | '[' :: rest =>
      match depth with
      | 0 => none
      | depth + 1 => (bracketed ']' (value depth) rest).map fun (items, rest) => (.array items, rest)
    | '\x7b' :: rest =>
      match depth with
      | 0 => none
      | depth + 1 =>
        (bracketed '\x7d' (entry (value depth)) rest).map fun (entries, rest) =>
          (.object (sortEntries entries), rest)
    | _ => number input

def parse? (text : String) : Option Json :=
  match value maxDepth (skipBlanks text.toList) with
  | some (found, rest) => if (skipBlanks rest).isEmpty then some found else none
  | none => none

end ScriptSandbox.Json
