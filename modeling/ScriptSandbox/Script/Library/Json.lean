import ScriptSandbox.Script.Library.Object
import ScriptSandbox.Text.Quoted

/-!
Values as JSON text. Reading goes through a tree, from which the values are made; numbers that are read
are always doubles. Writing asks every value how it wants to be written.
-/

namespace ScriptSandbox.Script.Library

open Execution

/-- What a JSON text writes. Members come in the order of the text. -/
inductive JsonTree where
  | null
  | boolean (value : Bool)
  | number (value : Float)
  | text (content : Units)
  | list (items : List JsonTree)
  | record (members : List (Units × JsonTree))

inductive JsonFault where
  | malformed
  | tooDeep

namespace JsonTree

abbrev Read (α : Type) := Nat → Except JsonFault (α × Nat)

def skipBlank (source : Units) : Nat → Nat → Nat
  | 0, position => position
  | steps + 1, position =>
    match source[position]? with
    | some unit =>
      if unit == 32 || unit == 9 || unit == 10 || unit == 13 then skipBlank source steps (position + 1)
      else position
    | none => position

def blank (source : Units) (position : Nat) : Nat := skipBlank source (source.size - position) position

def expect (source : Units) (mark : UInt16) : Read Unit := fun position =>
  let position := blank source position
  if source[position]? == some mark then .ok ((), position + 1) else .error .malformed

def hexDigit? (unit : UInt16) : Option Nat :=
  if 48 ≤ unit && unit ≤ 57 then some (unit.toNat - 48)
  else if 97 ≤ unit && unit ≤ 102 then some (unit.toNat - 87)
  else if 65 ≤ unit && unit ≤ 70 then some (unit.toNat - 55)
  else none

def hexUnit (source : Units) (position : Nat) : Option UInt16 := do
  let digit (offset : Nat) : Option Nat := do hexDigit? (← source[position + offset]?)
  return (((← digit 0) * 16 + (← digit 1)) * 256 + (← digit 2) * 16 + (← digit 3)).toUInt16

def escaped? (unit : UInt16) : Option UInt16 :=
  [(34, 34), (92, 92), (47, 47), (98, 8), (102, 12), (110, 10), (114, 13), (116, 9)].lookup unit

def textRest (source : Units) : Nat → Units → Read Units
  | 0, _, _ => .error .malformed
  | steps + 1, done, position =>
    match source[position]? with
    | none => .error .malformed
    | some 34 => .ok (done, position + 1)
    | some 92 =>
      match source[position + 1]? with
      | some 117 =>
        match hexUnit source (position + 2) with
        | some unit => textRest source steps (done.push unit) (position + 6)
        | none => .error .malformed
      | some mark =>
        match escaped? mark with
        | some unit => textRest source steps (done.push unit) (position + 2)
        | none => .error .malformed
      | none => .error .malformed
    | some unit =>
      if unit < 32 then .error .malformed else textRest source steps (done.push unit) (position + 1)

def digitsFrom (source : Units) (position : Nat) : Nat :=
  let rec go : Nat → Nat → Nat
    | 0, position => position
    | steps + 1, position =>
      match source[position]? with
      | some unit => if 48 ≤ unit && unit ≤ 57 then go steps (position + 1) else position
      | none => position
  go (source.size - position) position

def numberEnd (source : Units) (start : Nat) : Except JsonFault Nat := do
  let first := if source[start]? == some 45 then start + 1 else start
  let whole := digitsFrom source first
  if whole = first || (source[first]? == some 48 && first + 1 < whole) then throw .malformed
  let fraction ← if source[whole]? == some 46 then
      let finish := digitsFrom source (whole + 1)
      if finish = whole + 1 then throw .malformed else pure finish
    else pure whole
  if source[fraction]? == some 101 || source[fraction]? == some 69 then
    let digits := if source[fraction + 1]? == some 43 || source[fraction + 1]? == some 45 then fraction + 2
      else fraction + 1
    let finish := digitsFrom source digits
    if finish = digits then throw .malformed else return finish
  else return fraction

def numberAt (source : Units) : Read JsonTree := fun position => do
  let finish ← numberEnd source position
  let written := source.extract position finish
  let size := if source[position]? == some 45 then written.extract 1 written.size else written
  let x := ((Number.decimalStart? (Number.asciiChars size)).map (·.1)).getD 0
  return (.number (if source[position]? == some 45 then -x else x), finish)

def word (source : Units) (text : String) (value : JsonTree) : Read JsonTree := fun position =>
  let units := Units.ofString text
  if source.extract position (position + units.size) == units then .ok (value, position + units.size)
  else .error .malformed

def items (source : Units) (item : Read JsonTree) : Nat → List JsonTree → Read (List JsonTree)
  | 0, _, _ => .error .malformed
  | steps + 1, done, position => do
    let (found, position) ← item position
    let position := blank source position
    match source[position]? with
    | some 44 => items source item steps (found :: done) (position + 1)
    | some 93 => return ((found :: done).reverse, position + 1)
    | _ => throw .malformed

def members (source : Units) (item : Read JsonTree) :
    Nat → List (Units × JsonTree) → Read (List (Units × JsonTree))
  | 0, _, _ => .error .malformed
  | steps + 1, done, position => do
    let ((), position) ← expect source 34 position
    let (name, position) ← textRest source (source.size - position + 1) #[] position
    let ((), position) ← expect source 58 position
    let (found, position) ← item position
    let position := blank source position
    match source[position]? with
    | some 44 => members source item steps ((name, found) :: done) (position + 1)
    | some 125 => return (((name, found) :: done).reverse, position + 1)
    | _ => throw .malformed

def valueAt (source : Units) : Nat → Read JsonTree
  | 0, _ => .error .tooDeep
  | depth + 1, position => do
    let position := blank source position
    match source[position]? with
    | none => throw .malformed
    | some 123 =>
      let inner := blank source (position + 1)
      if source[inner]? == some 125 then return (.record [], inner + 1)
      else
        let (found, position) ← members source (valueAt source depth) (source.size + 1) [] inner
        return (.record found, position)
    | some 91 =>
      let inner := blank source (position + 1)
      if source[inner]? == some 93 then return (.list [], inner + 1)
      else
        let (found, position) ← items source (valueAt source depth) (source.size + 1) [] inner
        return (.list found, position)
    | some 34 =>
      let (found, position) ← textRest source (source.size - position + 1) #[] (position + 1)
      return (.text found, position)
    | some 116 => word source "true" (.boolean true) position
    | some 102 => word source "false" (.boolean false) position
    | some 110 => word source "null" .null position
    | some _ => numberAt source position

def deepest : Nat := 4000

def read (source : Units) : Except JsonFault JsonTree := do
  let (found, position) ← valueAt source deepest 0
  if blank source position = source.size then return found else throw .malformed

def build : JsonTree → Execution Value
  | .null => return .null
  | .boolean b => return .boolean b
  | .number x => return .number x
  | .text content => newText content
  | .list items => do newArrayOf (← buildAll items).toArray
  | .record members => do
    let properties ← buildMembers members Properties.empty
    let ref ← allocate { kind := .ordinary, parent := some Intrinsic.objectPrototype.ref
                         extensible := true, properties }
    return .object ref
where
  buildAll : List JsonTree → Execution (List Value)
    | [] => return []
    | item :: rest => do
      let value ← build item
      return value :: (← buildAll rest)
  buildMembers : List (Units × JsonTree) → Properties → Execution Properties
    | [], done => return done
    | (name, item) :: rest, done => do
      let value ← build item
      note propertySize
      buildMembers rest (done.insert (.ofUnits name) (.plain value))

end JsonTree

/-! ### Writing -/

def jsonText (text : Units) : Units :=
  let escape (unit : UInt16) : Units := Units.ofString ("\\u" ++ Text.hexPadded 4 unit.toNat)
  let (done, held) := text.foldl (fun (done, held) unit =>
    match held with
    | some high =>
      if Units.isLow unit then ((Array.push done high).push unit, none)
      else if Units.isHigh unit then (done ++ escape high, some unit)
      else (plain (done ++ escape high) unit, none)
    | none => if Units.isHigh unit then (done, some unit) else (plain done unit, none))
    ((#[34] : Units), (none : Option UInt16))
  let done := match held with
    | some high => done ++ escape high
    | none => done
  done.push 34
where
  plain (done : Units) (unit : UInt16) : Units :=
    match unit with
    | 34 => (done.push 92).push 34
    | 92 => (done.push 92).push 92
    | 8 => (done.push 92).push 98
    | 12 => (done.push 92).push 102
    | 10 => (done.push 92).push 110
    | 13 => (done.push 92).push 114
    | 9 => (done.push 92).push 116
    | unit =>
      if unit < 32 || Units.isLow unit then done ++ Units.ofString ("\\u" ++ Text.hexPadded 4 unit.toNat)
      else done.push unit

variable [Engine]

structure JsonStyle where
  /-- A function that may replace each value. -/
  replacer : Option Value
  /-- The members that are written, if not all are. -/
  wanted : Option (List Key)
  gap : Units

/-- A value as it wants to be written; nothing, if it cannot be. -/
def jsonReady (style : JsonStyle) (holder : Value) (key : Key) (value : Value) : Execution (Option Value) := do
  let asks := match value with
    | .object _ => true
    | .bigint _ => true
    | _ => false
  let value ← if asks then do
      let function ← value.get (.ofString "toJSON")
      if ← isCallable function then Engine.call function value #[.text key.toUnits] else pure value
    else pure value
  let value ← match style.replacer with
    | some function => Engine.call function holder #[.text key.toUnits, value]
    | none => pure value
  match value with
  | .undefined => return none
  | .absent => return none
  | .symbol _ => return none
  | .object ref => if (← kindOf ref).calls then return none else return some value
  | value => return some value

def unboxed (value : Value) : Execution Value := do
  match value with
  | .object ref =>
    match ← kindOf ref with
    | .boxed (.integer _) => value.toNumber
    | .boxed (.number _) => value.toNumber
    | .boxed (.text _) => return .text (← value.toUnits)
    | .boxed (.boolean b) => return .boolean b
    | .boxed (.bigint n) => return .bigint n
    | _ => return value
  | value => return value

def writeJson (style : JsonStyle) : Nat → List Ref → Units → Value → Units → Execution Units
  | 0, _, _, _, _ => stackOverflow
  | depth + 1, around, indent, value, done => do
    match ← unboxed value with
    | .object ref =>
      if around.contains ref then throwType "circular reference"
      else
        let value := Value.object ref
        let around := ref :: around
        let inner := indent ++ style.gap
        let lineOf (indent : Units) : Units :=
          if style.gap.isEmpty then #[] else #[10] ++ indent
        if ← value.isArray then
          let length ← lengthOf value
          if length = 0 then return done ++ Units.ofString "[]"
          else
            let done ← repeating ((0 : Nat), done.push 91) fun (index, done) => do
              if length ≤ index then return .inr done
              else
                let done := if index = 0 then done else done.push 44
                let done := done ++ lineOf inner
                let item ← value.get (.index index)
                match ← jsonReady style value (.index index) item with
                | some item => return .inl (index + 1, ← writeJson style depth around inner item done)
                | none => return .inl (index + 1, done ++ Units.ofString "null")
            return (done ++ lineOf indent).push 93
        else
          let keys ← match style.wanted with
            | some keys => pure keys
            | none => listedKeys ref
          let (done, empty) ← repeating (keys, done.push 123, true) fun (keys, done, empty) => do
            match keys with
            | [] => return .inr (done, empty)
            | key :: rest =>
              let item ← value.get key
              match ← jsonReady style value key item with
              | none => return .inl (rest, done, empty)
              | some item =>
                let done := if empty then done else done.push 44
                let done := (done ++ lineOf inner ++ jsonText key.toUnits).push 58
                let done := if style.gap.isEmpty then done else done.push 32
                return .inl (rest, ← writeJson style depth around inner item done, false)
          return (if empty then done else done ++ lineOf indent).push 125
    | .text content => return done ++ jsonText content
    | .number x =>
      if x.isFinite then return done ++ Units.ofString (Number.text x) else return done ++ Units.ofString "null"
    | .bigint _ => throwType "bigint are forbidden in JSON.stringify"
    | other => return done ++ other.plainText

def wantedKeys (value : Value) : Execution (List Key) := do
  let items ← itemsOf value
  let keys ← items.toList.filterMapM fun item => do
    match item with
    | .text content => return some (Key.ofUnits content)
    | .integer _ => return some (.ofUnits item.plainText)
    | .number _ => return some (.ofUnits item.plainText)
    | .object ref =>
      match ← kindOf ref with
      | .boxed (.text _) => return some (.ofUnits (← item.toUnits))
      | .boxed (.integer _) => return some (.ofUnits (← item.toUnits))
      | .boxed (.number _) => return some (.ofUnits (← item.toUnits))
      | _ => return none
    | _ => return none
  return keys.eraseDups

def deepestJson : Nat := 2000

/-- A value as JSON text; `undefined`, if it has none. -/
def jsonOf (value replacer space : Value) : Execution Value := do
  let calls ← isCallable replacer
  let wanted ← if calls then pure none
    else if ← replacer.isArray then some <$> wantedKeys replacer else pure none
  let gap ← match ← unboxed space with
    | .text content => pure (content.extract 0 10)
    | .integer n => pure (Units.replicate #[32] (min 10 n.toNat))
    | .number x => do
      let x ← (Value.number x).toInteger
      pure (Units.replicate #[32] (if x < 1 then 0 else if 10 ≤ x then 10 else (Number.truncate x).toNat))
    | _ => pure #[]
  let style : JsonStyle := { replacer := if calls then some replacer else none, wanted, gap }
  let holder ← newPlain [("", value)]
  match ← jsonReady style holder (.ofString "") value with
  | none => return .undefined
  | some value => newText (← writeJson style deepestJson [] #[] value #[])

/-- Passes every part of a value that was read to a function, the inner parts first. -/
def revive (function : Value) : Nat → Value → Key → Execution Value
  | 0, _, _ => stackOverflow
  | depth + 1, holder, key => do
    let value ← holder.get key
    match value with
    | .object ref =>
      let keys ← if ← value.isArray then do pure ((List.range (← lengthOf value)).map Key.index)
        else listedKeys ref
      for key in keys do
        match ← revive function depth value key with
        | .undefined => discard <| ref.delete key
        | found => discard <| ref.define key (.ofProperty (.plain found))
    | _ => pure ()
    Engine.call function holder #[.text key.toUnits, value]

def jsonMethods : List Method := [
  method "parse" 2 fun call => do
    let source ← call.first.toUnits
    match JsonTree.read source with
    | .error .malformed => throwNew .syntaxError "unexpected token in JSON"
    | .error .tooDeep => stackOverflow
    | .ok tree =>
      let value ← tree.build
      if ← isCallable call.second then
        revive call.second deepestJson (← newPlain [("", value)]) (.ofString "")
      else return value,
  method "stringify" 3 fun call => jsonOf call.first call.second (call.argument 2)]

end ScriptSandbox.Script.Library
