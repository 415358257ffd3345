import ScriptSandbox.HostValue
import ScriptSandbox.Json.Basic

/-!
Host values as JSON. Writing forgets the kinds that JSON lacks: symbols and opaque values become texts
and keys become their key texts, while the order and the number of entries are kept. Reading makes a
floating-point number of an integer that does not fit 64 bits.
-/

namespace ScriptSandbox.HostValue

mutual

def toJson : HostValue → Json
  | .null => .null
  | .boolean value => .boolean value
  | .integer value => .integer value
  | .float value => if value.isFinite then .float value else .null
  | .text value => .text value
  | .symbol name => .text name
  | .foreign shown => .text shown
  | .list items => .array (itemsToJson items)
  | .map entries => .object (entriesToJson entries)

def itemsToJson : List HostValue → List Json
  | [] => []
  | item :: rest => toJson item :: itemsToJson rest

def entriesToJson : List (HostValue × HostValue) → List (String × Json)
  | [] => []
  | (key, value) :: rest => (key.keyText, toJson value) :: entriesToJson rest

end

/-- An integer of a document: one that does not fit 64 bits becomes the nearest double. -/
def ofInteger (value : Int) : HostValue :=
  if -0x8000000000000000 ≤ value ∧ value < 0x8000000000000000 then .integer value else .float (Float.ofInt value)

mutual

def ofJson : Json → HostValue
  | .null => .null
  | .boolean value => .boolean value
  | .integer value => ofInteger value
  | .float value => .float value
  | .text value => .text value
  | .array items => .list (itemsOfJson items)
  | .object entries => .map (entriesOfJson entries)

def itemsOfJson : List Json → List HostValue
  | [] => []
  | item :: rest => ofJson item :: itemsOfJson rest

def entriesOfJson : List (String × Json) → List (HostValue × HostValue)
  | [] => []
  | (key, value) :: rest => (.text key, ofJson value) :: entriesOfJson rest

end

end ScriptSandbox.HostValue
