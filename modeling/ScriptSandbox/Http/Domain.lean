import ScriptSandbox.Text.Case
import ScriptSandbox.Text.Printable

/-!
Host names as they are sent: in ASCII. A name is put into its normal form, character by character, and
each of its labels that is not ASCII then is written in the letters, digits and hyphens of Punycode
after the mark `xn--`. Marked labels must be what Punycode writes for some label that needs it.
-/

namespace ScriptSandbox.Domain

def base : Nat := 36
def leastThreshold : Nat := 1
def greatestThreshold : Nat := 26

def adapt (difference count : Nat) (first : Bool) : Nat :=
  let scaled := if first then difference / 700 else difference / 2
  let rec halve (steps scaled offset : Nat) : Nat :=
    match steps with
    | 0 => offset
    | steps + 1 =>
      if (base - leastThreshold) * greatestThreshold / 2 < scaled then
        halve steps (scaled / (base - leastThreshold)) (offset + base)
      else offset + (base - leastThreshold + 1) * scaled / (scaled + 38)
  halve 64 (scaled + scaled / count) 0

def threshold (position bias : Nat) : Nat :=
  if position ≤ bias then leastThreshold
  else min greatestThreshold (max leastThreshold (position - bias))

def digit (value : Nat) : Char :=
  if value < 26 then Char.ofNat (0x61 + value) else Char.ofNat (0x30 + (value - 26))

def differenceDigits (bias : Nat) : Nat → Nat → Nat → List Char
  | 0, _, _ => []
  | steps + 1, position, value =>
    let t := threshold position bias
    if value < t then [digit value]
    else digit (t + (value - t) % (base - t)) ::
      differenceDigits bias steps (position + base) ((value - t) / (base - t))

structure Encoding where
  handled : Nat
  difference : Nat
  bias : Nat
  digits : List Char

def encodeCode (plainCount code : Nat) (codes : List Nat) (state : Encoding) : Encoding :=
  codes.foldl (fun state other =>
    if other < code then { state with difference := state.difference + 1 }
    else if other = code then
      { handled := state.handled + 1
        difference := 0
        bias := adapt state.difference (state.handled + 1) (state.handled == plainCount)
        digits := state.digits ++ differenceDigits state.bias 64 base state.difference }
    else state) state

def punycode (codes : List Nat) : String :=
  let plain := codes.filter (· < 0x80)
  let others := (codes.filter (0x80 ≤ ·)).foldl (fun sorted code =>
    if sorted.contains code then sorted
    else sorted.filter (· < code) ++ code :: sorted.filter (code < ·)) []
  let start : Encoding × Nat := (⟨plain.length, 0, 72, []⟩, 0x80)
  let (state, _) := others.foldl (fun (state, next) code =>
    let state := { state with
      difference := state.difference + (code - next) * (state.handled + 1) }
    let state := encodeCode plain.length code codes state
    ({ state with difference := state.difference + 1 }, code + 1)) start
  String.ofList (plain.map Char.ofNat ++ (if plain.isEmpty then [] else ['-']) ++ state.digits)

def digitValue? (c : Char) : Option Nat :=
  if '0' ≤ c ∧ c ≤ '9' then some (c.toNat - 0x30 + 26)
  else if 'a' ≤ c ∧ c ≤ 'z' then some (c.toNat - 0x61)
  else if 'A' ≤ c ∧ c ≤ 'Z' then some (c.toNat - 0x41)
  else none

def readDifference (bias : Nat) : Nat → Nat → Nat → List Char → Option (Nat × List Char)
  | _, _, _, [] => none
  | position, weight, value, c :: rest =>
    match digitValue? c with
    | none => none
    | some d =>
      let t := threshold position bias
      let value := value + d * weight
      if d < t then some (value, rest)
      else readDifference bias (position + base) (weight * (base - t)) value rest

def decodeDifferences : Nat → List Nat → Nat → Nat → Nat → List Char → Option (List Nat)
  | 0, _, _, _, _, _ => none
  | _ + 1, codes, _, _, _, [] => some codes
  | steps + 1, codes, code, place, bias, input =>
    match readDifference bias base 1 place input with
    | none => none
    | some (reached, rest) =>
      let count := codes.length + 1
      let code := code + reached / count
      let index := reached % count
      if 0x110000 ≤ code then none
      else decodeDifferences steps (codes.take index ++ code :: codes.drop index) code (index + 1)
        (adapt (reached - place) count (place == 0)) rest

def ofPunycode? (label : String) : Option (List Nat) :=
  let chars := label.toList
  let plain := ((chars.reverse.dropWhile (· != '-')).drop 1).reverse
  let digits := if chars.contains '-' then (chars.reverse.takeWhile (· != '-')).reverse else chars
  decodeDifferences digits.length.succ (plain.map Char.toNat) 0x80 0 72 digits

def isIgnored (code : Nat) : Bool :=
  code == 0xAD || code == 0x34F || code == 0x200B || code == 0x2060 || code == 0x2064 ||
  code == 0xFEFF || (0x180B ≤ code && code ≤ 0x180F) || (0xFE00 ≤ code && code ≤ 0xFE0F)

def normalize (c : Char) : List Nat :=
  let code := c.toNat
  if isIgnored code then []
  else if code == 0x3002 || code == 0xFF0E || code == 0xFF61 then ['.'.toNat]
  else if 0xFF01 ≤ code && code ≤ 0xFF5E then Text.lowerCodes (code - 0xFF01 + 0x21)
  else if code == 0xDF || code == 0x3C2 then [code]
  else Text.lowerCodes code

def isForbidden (code : Nat) : Bool :=
  code ≤ 0x20 || code == 0x7F || "%#/:<>?@[\\]^|".toList.any fun c => c.toNat == code

def isUnassigned (code : Nat) : Bool :=
  (0x80 ≤ code && code ≤ 0xA0) || code == 0x2028 || code == 0x2029 || code == 0xFFFD ||
  (0xE000 ≤ code && code ≤ 0xF8FF) || (0x2000 ≤ code && code ≤ 0x200F) ||
  code == 0x3000 || code % 0x10000 ≥ 0xFFFE

def labelText? (codes : List Nat) : Option String :=
  if codes.any fun code => isForbidden code || isUnassigned code then none
  else if codes.all (· < 0x80) then
    let label := String.ofList (codes.map Char.ofNat)
    if label.startsWith "xn--" then
      match ofPunycode? (label.drop 4).toString with
      | some found =>
        if found.all (· < 0x80) || found.any isUnassigned || "xn--" ++ punycode found != label then none
        else some label
      | none => none
    else some label
  else some ("xn--" ++ punycode codes)

def labels (codes : List Nat) : List (List Nat) :=
  codes.foldr (fun code parts =>
    if code = '.'.toNat then [] :: parts
    else match parts with
      | part :: rest => (code :: part) :: rest
      | [] => [[code]]) [[]]

def toAscii? (name : String) : Option String := do
  let codes := name.toList.flatMap normalize
  let texts ← (labels codes).mapM labelText?
  return ".".intercalate texts

end ScriptSandbox.Domain
