/-!
Text as scripts hold it: a sequence of UTF-16 code units in which surrogates need not be paired.
`Units.ofString` and `Units.toBytes` are the two crossings of the sandbox boundary: a well-formed
string enters as its units, and leaves as UTF-8 in which a surrogate without a partner keeps its own
three bytes.
-/

namespace ScriptSandbox

/-- A text of UTF-16 code units, where surrogates may stand alone. -/
abbrev Units := Array UInt16

namespace Units

def ofCode (code : Nat) : List UInt16 :=
  if code < 0x10000 then [code.toUInt16]
  else [(0xD800 + (code - 0x10000) / 0x400).toUInt16, (0xDC00 + (code - 0x10000) % 0x400).toUInt16]

def ofChars (text : List Char) : Units :=
  text.foldl (fun units c =>
    if c.val < 0x10000 then units.push c.val.toUInt16 else (ofCode c.toNat).foldl Array.push units) #[]

def ofString (text : String) : Units :=
  ofChars text.toList

instance : Coe String Units := ⟨ofString⟩

def isHigh (unit : UInt16) : Bool := 0xD800 ≤ unit && unit ≤ 0xDBFF

def isLow (unit : UInt16) : Bool := 0xDC00 ≤ unit && unit ≤ 0xDFFF

def joined (high low : UInt16) : Nat :=
  0x10000 + (high.toNat - 0xD800) * 0x400 + (low.toNat - 0xDC00)

/-- The code points of a text: pairs are joined, a surrogate without a partner counts as itself. -/
def codesOfList : List UInt16 → List Nat
  | [] => []
  | [unit] => [unit.toNat]
  | first :: second :: rest =>
    if isHigh first && isLow second then joined first second :: codesOfList rest
    else first.toNat :: codesOfList (second :: rest)

/-- One step of reading code points: those that were found, and a high surrogate that waits for a partner. -/
def joinStep : Array Nat × Option UInt16 → UInt16 → Array Nat × Option UInt16
  | (found, some high), unit =>
    if isLow unit then (found.push (joined high unit), none)
    else if isHigh unit then (found.push high.toNat, some unit)
    else ((found.push high.toNat).push unit.toNat, none)
  | (found, none), unit => if isHigh unit then (found, some unit) else (found.push unit.toNat, none)

def codes (text : Units) : Array Nat :=
  match text.foldl joinStep (#[], none) with
  | (found, some high) => found.push high.toNat
  | (found, none) => found

def codeBytes (code : Nat) : List UInt8 :=
  if code < 0x80 then [code.toUInt8]
  else if code < 0x800 then [(0xC0 + code / 0x40).toUInt8, (0x80 + code % 0x40).toUInt8]
  else if code < 0x10000 then
    [(0xE0 + code / 0x1000).toUInt8, (0x80 + code / 0x40 % 0x40).toUInt8,
      (0x80 + code % 0x40).toUInt8]
  else
    [(0xF0 + code / 0x40000).toUInt8, (0x80 + code / 0x1000 % 0x40).toUInt8,
      (0x80 + code / 0x40 % 0x40).toUInt8, (0x80 + code % 0x40).toUInt8]

/-- A text as bytes: UTF-8, where a surrogate without a partner has its own three bytes. -/
def toBytes (text : Units) : Array UInt8 :=
  text.codes.foldl (fun bytes code =>
    if code < 0x80 then bytes.push code.toUInt8 else (codeBytes code).foldl Array.push bytes) #[]

def codeAt? (text : Units) (position : Nat) : Option (Nat × Nat) :=
  match text[position]? with
  | none => none
  | some first =>
    match text[position + 1]? with
    | some second =>
      if isHigh first && isLow second then some (joined first second, 2) else some (first.toNat, 1)
    | none => some (first.toNat, 1)

/-- Order of texts by their units, a shorter text first where one begins the other. -/
def precedes (a b : Units) : Bool :=
  let rec from_ (steps position : Nat) : Bool :=
    match steps with
    | 0 => a.size < b.size
    | steps + 1 =>
      match a[position]?, b[position]? with
      | some x, some y => if x < y then true else if y < x then false else from_ steps (position + 1)
      | _, _ => a.size < b.size
  from_ (min a.size b.size) 0

def find? (text needle : Units) (start : Nat) : Option Nat :=
  let rec holds (position : Nat) : Nat → Nat → Bool
    | 0, _ => true
    | steps + 1, offset => text[position + offset]? == needle[offset]? && holds position steps (offset + 1)
  let rec seek : Nat → Nat → Option Nat
    | 0, _ => none
    | steps + 1, position =>
      if holds position needle.size 0 then some position else seek steps (position + 1)
  if start + needle.size ≤ text.size then seek (text.size - needle.size - start + 1) start else none

def findLast? (text needle : Units) (limit : Nat) : Option Nat :=
  let rec seek : Nat → Option Nat
    | 0 => if text.extract 0 needle.size == needle then some 0 else none
    | position + 1 =>
      if text.extract (position + 1) (position + 1 + needle.size) == needle then some (position + 1)
      else seek position
  if needle.size ≤ text.size then seek (min limit (text.size - needle.size)) else none

def startsWith (text start : Units) : Bool :=
  text.extract 0 start.size == start

def replicate (text : Units) (count : Nat) : Units :=
  count.fold (fun _ _ result => result ++ text) (Array.mkEmpty (text.size * count))

def join (separator : Units) (texts : List Units) : Units :=
  match texts with
  | [] => #[]
  | first :: rest => rest.foldl (fun result text => result ++ separator ++ text) first

end Units

end ScriptSandbox
