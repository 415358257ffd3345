import ScriptSandbox.Script.Library.Number
import ScriptSandbox.Script.Library.Array

/-!
Functions of the global object that belong to no other one: tests of numbers, evaluation of text, and
the escapes of addresses.
-/

namespace ScriptSandbox.Script.Library

open Execution

def isPartUnit (unit : UInt16) : Bool :=
  (48 ≤ unit && unit ≤ 57) || (65 ≤ unit && unit ≤ 90) || (97 ≤ unit && unit ≤ 122) ||
    "-_.!~*'()".toList.any fun c => c.val.toUInt16 == unit

def isDivider (unit : UInt16) : Bool := ";/?:@&=+$,#".toList.any fun c => c.val.toUInt16 == unit

def hexUnits (n : Nat) : Units :=
  let digit (n : Nat) : UInt16 := (if n < 10 then 48 + n else 55 + n).toUInt16
  #[37, digit (n / 16), digit (n % 16)]

def uriError : Execution α := throwNew .uriError "malformed URI sequence"

/-- Escapes a text as bytes of UTF-8, except units that may stay. -/
def encodeAddress (text : Units) (stays : UInt16 → Bool) : Execution Units := do
  let codes := text.codes
  if codes.any fun code => 0xD800 ≤ code && code ≤ 0xDFFF then uriError
  else
    return codes.foldl (fun done code =>
      if code < 0x80 && stays code.toUInt16 then done.push code.toUInt16
      else (Units.codeBytes code).foldl (fun done byte => done ++ hexUnits byte.toNat) done) #[]

def hexValue? (unit : UInt16) : Option Nat :=
  if 48 ≤ unit && unit ≤ 57 then some (unit.toNat - 48)
  else if 65 ≤ unit && unit ≤ 70 then some (unit.toNat - 55)
  else if 97 ≤ unit && unit ≤ 102 then some (unit.toNat - 87)
  else none

def escapedByte? (text : Units) (position : Nat) : Option Nat := do
  if text[position]? == some 37 then
    return (← hexValue? (← text[position + 1]?)) * 16 + (← hexValue? (← text[position + 2]?))
  else none

/-- Reads escapes back, except those of units that may not be read. -/
def decodeAddress (text : Units) (kept : UInt16 → Bool) : Execution Units :=
  repeating ((0 : Nat), (#[] : Units)) fun (position, done) => do
    match text[position]? with
    | none => return .inr done
    | some 37 =>
      match escapedByte? text position with
      | none => uriError
      | some byte =>
        if byte < 0x80 then
          let unit := byte.toUInt16
          if kept unit then return .inl (position + 3, done ++ text.extract position (position + 3))
          else return .inl (position + 3, done.push unit)
        else
          let count := if byte < 0xC2 then 0 else if byte < 0xE0 then 2 else if byte < 0xF0 then 3
            else if byte < 0xF5 then 4 else 0
          let bytes := (List.range count).map fun index => escapedByte? text (position + 3 * index)
          if count = 0 || bytes.any (·.isNone) then uriError
          else
            match Lossy.strict? (bytes.map fun byte => (byte.getD 0).toUInt8).toArray with
            | some found => return .inl (position + 3 * count, done ++ Units.ofString found)
            | none => uriError
    | some unit => return .inl (position + 1, done.push unit)

/-- Escapes of the old kind, which know units rather than bytes. -/
def escapeUnits (text : Units) : Units :=
  let stays (unit : UInt16) : Bool :=
    (48 ≤ unit && unit ≤ 57) || (65 ≤ unit && unit ≤ 90) || (97 ≤ unit && unit ≤ 122) ||
      "@*_+-./".toList.any fun c => c.val.toUInt16 == unit
  text.foldl (fun done unit =>
    if stays unit then done.push unit
    else if unit < 256 then done ++ hexUnits unit.toNat
    else done ++ #[37, 117] ++ (hexUnits (unit.toNat / 256)).extract 1 3 ++
      (hexUnits (unit.toNat % 256)).extract 1 3) #[]

def unescapeUnits (text : Units) : Units :=
  let rec go : Nat → Nat → Units → Units
    | 0, _, done => done
    | steps + 1, position, done =>
      match text[position]? with
      | none => done
      | some 37 =>
        let wide : Option Nat := do
          if text[position + 1]? == some 117 then
            let digit (index : Nat) : Option Nat := do hexValue? (← text[position + 2 + index]?)
            return (((← digit 0) * 16 + (← digit 1)) * 16 + (← digit 2)) * 16 + (← digit 3)
          else none
        match wide, escapedByte? text position with
        | some unit, _ => go steps (position + 6) (done.push unit.toUInt16)
        | none, some byte => go steps (position + 3) (done.push byte.toUInt16)
        | none, none => go steps (position + 1) (done.push 37)
      | some unit => go steps (position + 1) (done.push unit)
  go text.size 0 #[]

variable [Engine]

def evalMethod : Method :=
  method "eval" 1 fun call => do
    match call.first with
    | .text source => Engine.evaluate source
    | other => return other

def globalMethods : List Method := [
  parseIntMethod, parseFloatMethod,
  method "isNaN" 1 fun call => do return .boolean (← call.first.toFloat).isNaN,
  method "isFinite" 1 fun call => do return .boolean (← call.first.toFloat).isFinite,
  method "queueMicrotask" 1 fun call => do
    expectFunction call.first
    return .undefined,
  method "decodeURI" 1 fun call => do newText (← decodeAddress (← call.first.toUnits) isDivider),
  method "decodeURIComponent" 1 fun call => do
    newText (← decodeAddress (← call.first.toUnits) fun _ => false),
  method "encodeURI" 1 fun call => do
    newText (← encodeAddress (← call.first.toUnits) fun unit => isPartUnit unit || isDivider unit),
  method "encodeURIComponent" 1 fun call => do
    newText (← encodeAddress (← call.first.toUnits) isPartUnit),
  method "escape" 1 fun call => do newText (escapeUnits (← call.first.toUnits)),
  method "unescape" 1 fun call => do newText (unescapeUnits (← call.first.toUnits))]

end ScriptSandbox.Script.Library
