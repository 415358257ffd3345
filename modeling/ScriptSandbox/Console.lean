import ScriptSandbox.Text.Lossy

/-!
The console of an evaluation: a byte buffer that keeps what fits under its cap and remembers whether
anything was cut off. The storage behind it grows by doubling and keeps its size across resets. Growing
may fail; then the data of that append is dropped, although the buffer may already count as truncated.
-/

namespace ScriptSandbox

structure Console where
  /-- The cap on stored bytes. -/
  limit : Nat
  /-- Bytes that fit without growing the storage. -/
  capacity : Nat
  bytes : Array UInt8
  /-- Whether bytes were cut off since the last reset. -/
  truncated : Bool

namespace Console

def initialCapacity : Nat := 1024

def empty (limit : Nat) : Console :=
  { limit, capacity := min initialCapacity limit, bytes := #[], truncated := false }

def fitting (console : Console) (data : Array UInt8) : Nat :=
  min data.size (console.limit - console.bytes.size)

def growthTarget (console : Console) (required : Nat) : Nat :=
  max required (min (2 * console.capacity) console.limit)

/-- Appends as much of the data as fits, where `provides` tells which storage can be had. -/
def appendIf (provides : Nat → Bool) (console : Console) (data : Array UInt8) : Console :=
  if data.isEmpty then console
  else if console.limit ≤ console.bytes.size then { console with truncated := true }
  else
    let fitting := console.fitting data
    let marked := { console with truncated := console.truncated || fitting < data.size }
    let required := console.bytes.size + fitting
    let written := console.bytes ++ data.extract 0 fitting
    if required ≤ console.capacity then { marked with bytes := written }
    else if provides (console.growthTarget required) then
      { marked with bytes := written, capacity := console.growthTarget required }
    else marked

def append (console : Console) (data : Array UInt8) : Console :=
  console.appendIf (fun _ => true) data

def reset (console : Console) : Console :=
  { console with bytes := #[], truncated := false }

def isEmpty (console : Console) : Bool := console.bytes.isEmpty

def text (console : Console) : String := Lossy.decode console.bytes

end Console

end ScriptSandbox
