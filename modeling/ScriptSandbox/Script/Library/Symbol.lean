import ScriptSandbox.Script.Functions

/-!
Symbols: fresh ones, and those that are shared by name.
-/

namespace ScriptSandbox.Script.Library

open Execution

def symbolOf (value : Value) : Execution Nat := do
  match value with
  | .symbol id => return id
  | .object ref =>
    match ← kindOf ref with
    | .boxed (.symbol id) => return id
    | _ => throwType "not a symbol"
  | _ => throwType "not a symbol"

def symbolDescription (id : Nat) : Execution (Option Units) :=
  gets fun machine => machine.symbols.getD id none

/-- The text of a symbol for readers; no conversion gives it. -/
def symbolText (id : Nat) : Execution Units := do
  return Units.ofString "Symbol(" ++ ((← symbolDescription id).getD #[]) ++ Units.ofString ")"

variable [Engine]

def makeSymbol : Method :=
  constructor "Symbol" 0 fun call => do
    if !call.newTarget.isUndefined then throwType "not a constructor"
    else if call.first.isUndefined then return .symbol (← newSymbol none)
    else return .symbol (← newSymbol (some (← call.first.toUnits)))

def symbolStatics : List Method := [
  method "for" 1 fun call => do
    let name ← call.first.toUnits
    match ← gets fun machine => machine.registry.find? (·.1 == name) with
    | some (_, id) => return .symbol id
    | none =>
      let id ← newSymbol (some name)
      modify fun machine => { machine with registry := (name, id) :: machine.registry }
      return .symbol id,
  method "keyFor" 1 fun call => do
    match call.first with
    | .symbol id =>
      match ← gets fun machine => machine.registry.find? (·.2 == id) with
      | some (name, _) => return .text name
      | none => return .undefined
    | _ => throwType "not a symbol"]

def symbolMethods : List Method := [
  method "toString" 0 fun call => do return .text (← symbolText (← symbolOf call.this)),
  method "valueOf" 0 fun call => do return .symbol (← symbolOf call.this)]

def symbolToPrimitive : Method :=
  method "[Symbol.toPrimitive]" 1 fun call => do return .symbol (← symbolOf call.this)

def symbolDescriptionGetter : Method :=
  method "get description" 0 fun call => do
    return ((← symbolDescription (← symbolOf call.this)).map Value.text).getD .undefined

end ScriptSandbox.Script.Library
