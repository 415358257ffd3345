import ScriptSandbox.Decimal.Layout

/-!
The values that a host and its scripts exchange. A symbol and an opaque value are texts of a kind of
their own on the host's side. A map is a list of entries in the order they were given, duplicates
included, and its keys may be any values: `keyText` is the text a key stands for elsewhere.
-/

namespace ScriptSandbox

/-- A value of the host. Integers are meant to fit 64 bits. -/
inductive HostValue where
  | null
  | boolean (value : Bool)
  | integer (value : Int)
  | float (value : Float)
  | text (value : String)
  | symbol (name : String)
  | list (items : List HostValue)
  | map (entries : List (HostValue × HostValue))
  | foreign (shown : String)
  deriving Inhabited

namespace HostValue

/-- Numbers in shown values stand without an exponent from `0.0001` up to `10^16`. -/
def floatLayout : Decimal.Layout :=
  { least := -4, bound := 16, wholeSuffix := ".0", positiveSign := "", signedZero := true
    nan := "NaN", infinity := "inf" }

mutual

def display : HostValue → String
  | .null => ""
  | .boolean value => toString value
  | .integer value => toString value
  | .float value => floatLayout.write value
  | .text value => value
  | .symbol name => name
  | .foreign shown => shown
  | .list items => "[" ++ displayItems items ++ "]"
  | .map entries => "\x7b" ++ displayEntries entries ++ "\x7d"

def displayItems : List HostValue → String
  | [] => ""
  | [item] => display item
  | item :: next :: rest => display item ++ ", " ++ displayItems (next :: rest)

def displayEntries : List (HostValue × HostValue) → String
  | [] => ""
  | [(key, value)] => display key ++ ": " ++ display value
  | (key, value) :: next :: rest =>
    display key ++ ": " ++ display value ++ ", " ++ displayEntries (next :: rest)

end

def keyText : HostValue → String
  | .symbol name => name
  | .text value => value
  | other => other.display

def isNull : HostValue → Bool
  | .null => true
  | _ => false

mutual

/-- Equality of values: kinds must agree, and numbers compare as numbers do, so `NaN` differs from
itself and the two zeros are equal. -/
def same : HostValue → HostValue → Bool
  | .null, .null => true
  | .boolean a, .boolean b => a == b
  | .integer a, .integer b => a == b
  | .float a, .float b => a == b
  | .text a, .text b => a == b
  | .symbol a, .symbol b => a == b
  | .foreign a, .foreign b => a == b
  | .list a, .list b => sameItems a b
  | .map a, .map b => sameEntries a b
  | _, _ => false

def sameItems : List HostValue → List HostValue → Bool
  | [], [] => true
  | a :: restA, b :: restB => same a b && sameItems restA restB
  | _, _ => false

def sameEntries : List (HostValue × HostValue) → List (HostValue × HostValue) → Bool
  | [], [] => true
  | (keyA, a) :: restA, (keyB, b) :: restB =>
    same keyA keyB && same a b && sameEntries restA restB
  | _, _ => false

end

end HostValue

end ScriptSandbox
