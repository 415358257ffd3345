import ScriptSandbox.Script.Number
import ScriptSandbox.Script.Heap

/-!
Numbers as bytes, the least significant byte first, as typed arrays hold them.
-/

namespace ScriptSandbox.Script

namespace ElementType

def all : List ElementType :=
  [.int8, .uint8, .clamped, .int16, .uint16, .int32, .uint32, .bigInt64, .bigUint64, .float32, .float64]

def size : ElementType → Nat
  | .int8 => 1
  | .uint8 => 1
  | .clamped => 1
  | .int16 => 2
  | .uint16 => 2
  | .int32 => 4
  | .uint32 => 4
  | .float32 => 4
  | _ => 8

def name : ElementType → String
  | .int8 => "Int8Array"
  | .uint8 => "Uint8Array"
  | .clamped => "Uint8ClampedArray"
  | .int16 => "Int16Array"
  | .uint16 => "Uint16Array"
  | .int32 => "Int32Array"
  | .uint32 => "Uint32Array"
  | .bigInt64 => "BigInt64Array"
  | .bigUint64 => "BigUint64Array"
  | .float32 => "Float32Array"
  | .float64 => "Float64Array"

def isBig : ElementType → Bool
  | .bigInt64 => true
  | .bigUint64 => true
  | _ => false

def natOf (bytes : ByteArray) (offset : Nat) : Nat → Nat
  | 0 => 0
  | count + 1 => (bytes.data.getD offset 0).toNat + 256 * natOf bytes (offset + 1) count

def writeNat (bytes : ByteArray) (offset n : Nat) : Nat → ByteArray
  | 0 => bytes
  | count + 1 =>
    writeNat (ByteArray.mk (bytes.data.setIfInBounds offset n.toUInt8)) (offset + 1) (n / 256) count

def signed (bits n : Nat) : Int := Int.bmod n (Nat.pow 2 bits)

def read (element : ElementType) (bytes : ByteArray) (offset : Nat) : Value :=
  let n := natOf bytes offset element.size
  match element with
  | .int8 => .ofInt (signed 8 n)
  | .int16 => .ofInt (signed 16 n)
  | .int32 => .ofInt (signed 32 n)
  | .bigInt64 => .bigint (signed 64 n)
  | .bigUint64 => .bigint n
  | .float32 => .number (Float32.ofBits n.toUInt32).toFloat
  | .float64 => .number (Float.ofBits n.toUInt64)
  | _ => .ofNat n

/-- A double to the nearest byte, a half to the even one. -/
def clamp (x : Float) : Nat :=
  if x.isNaN || x ≤ 0 then 0
  else if 255 ≤ x then 255
  else
    let low := x.floor
    let n := low.toUInt64.toNat
    let rest := x - low
    if rest < 0.5 then n else if 0.5 < rest then n + 1 else n + n % 2

/-- Writes a number, which has the right type already. -/
def write (element : ElementType) (bytes : ByteArray) (offset : Nat) (value : Value) : ByteArray :=
  let x := (Value.float? value).getD Number.nan
  let n : Nat := match element, value with
    | .bigInt64, .bigint n => (n % 0x10000000000000000).toNat
    | .bigUint64, .bigint n => (n % 0x10000000000000000).toNat
    | .float32, _ => x.toFloat32.toBits.toNat
    | .float64, _ => x.toBits.toNat
    | .clamped, _ => clamp x
    | _, _ => Number.toUInt32 x
  writeNat bytes offset n element.size

end ElementType

end ScriptSandbox.Script
