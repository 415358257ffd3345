import ScriptSandbox.HostValue
import ScriptSandbox.Primitives

/-!
Values across the boundary. Host lists and maps become arrays and objects of the script; on the way back
only arrays are walked, and any other object becomes the text that the engine makes of it. The walk is
bounded: an array inside itself becomes `circularText`, and arrays below `deepestWalk` become texts.
-/

namespace ScriptSandbox

open Script Script.Execution

namespace Marshal

section

variable [Engine]

def ofInteger (n : Int) : Value :=
  if fitsInteger n then .integer n else .ofFloat (Double.ofInt n)

/-! ### To scripts -/

mutual

def toScript : HostValue → Execution Value
  | .null => return .null
  | .boolean b => return .boolean b
  | .integer n => return ofInteger n
  | .float x => return .ofFloat x
  | .text content => newText (Units.ofString content)
  | .symbol name => newText (Units.ofString name)
  | .foreign shown => newText (Units.ofString shown)
  | .list items => do
    let array ← newObject (.array #[] 0 false) .arrayPrototype
    fillArray array 0 items
    return .object array
  | .map entries => do
    let object ← newObject .ordinary .objectPrototype
    fillObject object entries
    return .object object

def fillArray (array : Ref) (index : Nat) : List HostValue → Execution Unit
  | [] => return ()
  | item :: rest => do
    let value ← toScript item
    charge 16
    array.put (.index index) value
    fillArray array (index + 1) rest

def fillObject (object : Ref) : List (HostValue × HostValue) → Execution Unit
  | [] => return ()
  | (key, item) :: rest => do
    let value ← toScript item
    object.put (.ofString key.keyText) value
    fillObject object rest

end

end

end Marshal

/-! ### From scripts -/

/-- A part of a walk through arrays inside each other. It works on the stack of the arrays that it is
inside of, the innermost first, and hands the stack back whatever way it ends. -/
def Walk (α : Type) := List Ref → Execution (Ending α × List Ref)

namespace Walk

protected def pure (result : α) : Walk α := fun stack => return (.value result, stack)

protected def bind (first : Walk α) (next : α → Walk β) : Walk β := fun stack => do
  match ← first stack with
  | (.value result, stack) => next result stack
  | (.thrown reason, stack) => return (.thrown reason, stack)
  | (.stopped reason, stack) => return (.stopped reason, stack)

instance : Monad Walk where
  pure := Walk.pure
  bind := Walk.bind

def of (part : Execution α) : Walk α := fun stack => do return (← attempt part, stack)

def ancestors : Walk (List Ref) := fun stack => return (.value stack, stack)

def inside (array : Ref) (part : Walk α) : Walk α := fun stack => do
  let (ending, stack) ← part (array :: stack)
  return (ending, stack.tail)

def turn (step : σ → Walk (σ ⊕ α)) : σ × List Ref → Execution ((σ × List Ref) ⊕ (Ending α × List Ref))
  | (state, stack) => do
    match ← step state stack with
    | (.value (.inl state), stack) => return .inl (state, stack)
    | (.value (.inr result), stack) => return .inr (.value result, stack)
    | (.thrown reason, stack) => return .inr (.thrown reason, stack)
    | (.stopped reason, stack) => return .inr (.stopped reason, stack)

def iterate (step : σ → Walk (σ ⊕ α)) (count : Nat) (start : σ) : Walk α := fun stack =>
  Script.Execution.iterate (turn step) count (start, stack)

end Walk

namespace Marshal

variable [Surface]

def longestDescription : Nat := 1000

def described (write : Value → Execution String) : Value → Execution String
  | .undefined => return "Symbol()"
  | description => return "Symbol(" ++ (← write description) ++ ")"

def scriptTextFrom : Nat → Value → Execution String
  | 0, _ => stackOverflow
  | depth + 1, value => do
    match value with
    | .symbol _ => described (scriptTextFrom depth) (← Surface.get value (.ofString "description"))
    | value => coercedText value

def scriptText (value : Value) : Execution String := scriptTextFrom longestDescription value

def deepestWalk : Nat := 128

def circularText : String := "[Circular]"

/-- The length of an array when it is gone into. It is looked at to make room, and then again. -/
def entryLength (array : Value) : Execution Nat := do
  let _ ← Surface.lengthOf array
  Surface.lengthOf array

/-- Converts the next item of an array, up to a length. The items before it are there in reverse order. -/
def gather (convert : Value → Walk HostValue) (array : Value) (length : Nat) :
    Nat × List HostValue → Walk ((Nat × List HostValue) ⊕ List HostValue)
  | (index, done) => do
    if length ≤ index then return .inr done.reverse
    else
      let item ← Walk.of (Surface.get array (.index index))
      let converted ← convert item
      return .inl (index + 1, converted :: done)

def collect (convert : Value → Walk HostValue) (array : Value) (length : Nat) : Walk (List HostValue) :=
  Walk.iterate (gather convert array length) (length + 1) (0, [])

def shown (value : Value) : Walk HostValue := do
  let text ← Walk.of (scriptText value)
  return .text text

def listed (convert : Value → Walk HostValue) (array : Value) : Walk HostValue := do
  let length ← Walk.of (entryLength array)
  let items ← collect convert array length
  return .list items

def plain? : Value → Option HostValue
  | .undefined => some .null
  | .absent => some .null
  | .null => some .null
  | .boolean b => some (.boolean b)
  | .integer n => some (.integer n)
  | .number x => some (.float x)
  | .text content => some (.text content.toText)
  | _ => none

/-- A value inside the arrays on the stack. The number bounds how deep the walk goes, and is never
reached: the stack comes first. -/
def fromWithin : Nat → Value → Walk HostValue
  | 0, _ => Walk.of (stop .exhausted)
  | depth + 1, value =>
    match plain? value, value with
    | some result, _ => return result
    | none, .object ref => do
      if ← Walk.of (Surface.isArray value) then
        let ancestors ← Walk.ancestors
        if ancestors.contains ref then return .text circularText
        else if ancestors.length < deepestWalk then
          Walk.inside ref (listed (fromWithin depth) value)
        else shown value
      else shown value
    | none, _ => shown value

def fromScript (value : Value) : Execution HostValue := do
  match ← fromWithin (deepestWalk + 1) value [] with
  | (.value result, _) => return result
  | (.thrown reason, _) => throwValue reason
  | (.stopped reason, _) => stop reason

end Marshal

end ScriptSandbox
