import ScriptSandbox.Script.Elements
import ScriptSandbox.Script.Machine
import ScriptSandbox.Text.Lossy

/-!
Reading properties: an object's own ones, then those of its parents. What stands in for another object
is asked through its handler.
-/

namespace ScriptSandbox.Script

open Execution

def lengthKey : Key := .ofString "length"

def nameKey : Key := .ofString "name"

def constructorKey : Key := .ofString "constructor"

def prototypeKey : Key := .ofString "prototype"

def messageKey : Key := .ofString "message"

def stackKey : Key := .ofString "stack"

def toStringKey : Key := .ofString "toString"

def valueOfKey : Key := .ofString "valueOf"

def unitText (unit : UInt16) : Value := .text #[unit]

/-- A property that an object has by itself, if it stands in for no other. -/
def ownProperty? (heap : Array Object) (object : Object) (key : Key) : Option Property :=
  match object.kind, key with
  | .array elements _ _, .index n =>
    match elements[n]? with
    | some .absent => object.properties.find? key
    | some value => some (.plain value)
    | none => object.properties.find? key
  | .array _ length fixedLength, .name _ =>
    if key == lengthKey then
      some { content := .value (.ofNat length), writable := !fixedLength, enumerable := false
             configurable := false }
    else object.properties.find? key
  | .boxed (.text text), .index n =>
    match text[n]? with
    | some unit =>
      some { content := .value (unitText unit), writable := false, enumerable := true
             configurable := false }
    | none => object.properties.find? key
  | .boxed (.text text), .name _ =>
    if key == lengthKey then some (.fixed (.ofNat text.size)) else object.properties.find? key
  | .view (some element) buffer offset length, .index n =>
    if n < length then
      match (heap.getD buffer default).kind with
      | .buffer bytes => some (.plain (element.read bytes (offset + n * element.size)))
      | _ => none
    else none
  | _, _ => object.properties.find? key

inductive Found where
  | property (property : Property) (holder : Ref)
  | missing
  /-- An object on the way stands in for another one. -/
  | proxy (ref : Ref)

def lookup (heap : Array Object) (key : Key) : Nat → Ref → Found
  | 0, _ => .missing
  | steps + 1, ref =>
    match heap[ref]? with
    | none => .missing
    | some object =>
      match object.kind with
      | .proxy .. => .proxy ref
      | _ =>
        match ownProperty? heap object key with
        | some property => .property property ref
        | none =>
          match object.parent with
          | some parent => lookup heap key steps parent
          | none => .missing

def longestChain : Nat := 100000

def stackOverflow : Execution α := throwNew .rangeError "Maximum call stack size exceeded"

def Key.shown (key : Key) : String :=
  match key with
  | .index n => toString n
  | .name text => text.toText
  | _ => ""

def proxyParts (ref : Ref) : Execution (Ref × Ref) := do
  match ← kindOf ref with
  | .proxy (some target) (some handler) _ _ => return (target, handler)
  | _ => throwType "revoked proxy"

def isCallable (value : Value) : Execution Bool := do
  match value with
  | .object ref => return (← kindOf ref).calls
  | _ => return false

variable [Engine]

def readProperty (property : Property) (receiver : Value) : Execution Value := do
  match property.content with
  | .value value => return value
  | .accessor getter _ =>
    match getter with
    | .undefined => return .undefined
    | getter => call getter receiver #[]

/-- Reads a property from an object on; getters see the receiver. -/
def getFrom (key : Key) (receiver : Value) : Nat → Ref → Execution Value
  | 0, _ => stackOverflow
  | depth + 1, ref => do
    match ← gets fun machine => lookup machine.heap key longestChain ref with
    | .property property _ => readProperty property receiver
    | .missing => return .undefined
    | .proxy ref =>
      let (target, handler) ← proxyParts ref
      match ← getFrom (.ofString "get") (.object handler) depth handler with
      | .undefined => getFrom key receiver depth target
      | .null => getFrom key receiver depth target
      | trap =>
        if !(← isCallable trap) then throwType "not a function"
        else call trap (.object handler) #[.object target, key.toValue, receiver]

def proxyDepth : Nat := 1000

def Ref.get (ref : Ref) (key : Key) : Execution Value :=
  getFrom key (.object ref) proxyDepth ref

def primitiveParent : Value → Option Intrinsic
  | .text _ => some .stringPrototype
  | .integer _ => some .numberPrototype
  | .number _ => some .numberPrototype
  | .boolean _ => some .booleanPrototype
  | .symbol _ => some .symbolPrototype
  | .bigint _ => some .bigintPrototype
  | _ => none

def Value.get (value : Value) (key : Key) : Execution Value := do
  match value with
  | .object ref => getFrom key value proxyDepth ref
  | .text content =>
    match key with
    | .index n =>
      match content[n]? with
      | some unit => return unitText unit
      | none => getFrom key value proxyDepth Intrinsic.stringPrototype.ref
    | key =>
      if key == lengthKey then return .ofNat content.size
      else getFrom key value proxyDepth Intrinsic.stringPrototype.ref
  | other =>
    match primitiveParent other with
    | some parent => getFrom key value proxyDepth parent.ref
    | none =>
      let kind := match other with
        | .null => "null"
        | _ => "undefined"
      if key.isSymbol then throwType ("cannot read property of " ++ kind)
      else throwType ("cannot read property '" ++ key.shown ++ "' of " ++ kind)

def Value.getMethod (value : Value) (key : Key) : Execution (Option Value) := do
  match ← value.get key with
  | .undefined => return none
  | .null => return none
  | found =>
    if ← isCallable found then return some found else throwType "not a function"

end ScriptSandbox.Script
