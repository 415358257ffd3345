import ScriptSandbox.HostValue
import ScriptSandbox.Script.Access

/-!
The part of a script engine that the host uses by itself: reading properties, telling arrays from other
objects, and writing values as texts. Every interpreter offers it, and so may anything else that can
stand in for one. Each of these may run code of the script, and may fail.
-/

namespace ScriptSandbox

open Script Script.Execution

class Surface where
  /-- The text of a value, as the engine writes it; symbols refuse this. -/
  toUnits : (value : Value) → Execution Units
  /-- A property of a value. -/
  get : (value : Value) → (key : Key) → Execution Value
  /-- Whether a value is an array. -/
  isArray : (value : Value) → Execution Bool
  /-- The length of an array. -/
  lengthOf : (value : Value) → Execution Nat

instance Surface.ofEngine [Engine] : Surface where
  toUnits := Value.toUnits
  get := Value.get
  isArray := Value.isArray
  lengthOf := Script.lengthOf

variable [Surface]

/-- A value as the engine writes it, decoded for the host; symbols refuse this. -/
def coercedText (value : Value) : Execution String := do
  return (← Surface.toUnits value).toText

/-- A value as the engine writes it, in the engine's own bytes. -/
def scriptBytes (value : Value) : Execution (Array UInt8) := do
  return (← Surface.toUnits value).toBytes

class Runtime extends Surface where
  /-- Evaluates a source text as a script of its own. -/
  evaluate : (source : Units) → Execution Value
  /-- Defines a global variable from a host value. -/
  define : (name : String) → (value : HostValue) → Execution Unit

end ScriptSandbox
