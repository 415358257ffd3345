import ScriptSandbox.Script.Number
import ScriptSandbox.Text.Identifier

/-!
The tokens of a script. `Token.scan` takes the token that begins at a position of the source, after
blanks and comments; regular expressions and the later parts of templates are taken only where the
grammar expects them. The source is a sequence of code points.
-/

namespace ScriptSandbox.Script

inductive Token where
  | eof
  /-- A name or a keyword; `escaped` if an escape stands in it. -/
  | word (name : String) (escaped : Bool)
  | secret (name : String)
  | mark (text : String)
  | number (value : Value)
  /-- A number with a leading zero. -/
  | octal (value : Value)
  /-- A text; `plain` if it has no escapes, `octal` if one of them is an octal one. -/
  | text (value : Units) (plain octal : Bool)
  /-- A part of a template, `last` if the template ends with it. -/
  | template (cooked : Option Units) (raw : Units) (last : Bool)
  deriving Inhabited

namespace Token

abbrev Source := Array Nat

def codeAt (source : Source) (position : Nat) : Nat := source.getD position 0

def isLineEnd (code : Nat) : Bool := code == 10 || code == 13 || code == 0x2028 || code == 0x2029

def isBlank (code : Nat) : Bool := code < 0x10000 && Number.isBlank code.toUInt16

def isDigit (code : Nat) : Bool := 48 ≤ code && code ≤ 57

def isNameStart (code : Nat) : Bool :=
  Text.isNameStart (Char.ofNat code)

def isNameRest (code : Nat) : Bool :=
  Text.isNameRest (Char.ofNat code)

def digitOf? (base code : Nat) : Option Nat :=
  let digit := if isDigit code then code - 48
    else if 97 ≤ code && code ≤ 102 then code - 87
    else if 65 ≤ code && code ≤ 70 then code - 55
    else 99
  if digit < base then some digit else none

def skipWhile (test : Nat → Bool) (source : Source) : Nat → Nat → Nat
  | 0, position => position
  | steps + 1, position =>
    if position < source.size && test (codeAt source position) then
      skipWhile test source steps (position + 1)
    else position

def commentEnd? (source : Source) : Nat → Nat → Bool → Option (Nat × Bool)
  | 0, _, _ => none
  | steps + 1, position, line =>
    if source.size ≤ position then none
    else if codeAt source position == 42 && codeAt source (position + 1) == 47 then some (position + 2, line)
    else commentEnd? source steps (position + 1) (line || isLineEnd (codeAt source position))

def skipBlanks (source : Source) : Nat → Nat → Bool → Except String (Nat × Bool)
  | 0, position, line => pure (position, line)
  | steps + 1, position, line =>
    if source.size ≤ position then pure (position, line)
    else
      let code := codeAt source position
      if isLineEnd code then skipBlanks source steps (position + 1) true
      else if isBlank code then skipBlanks source steps (position + 1) line
      else if code == 47 && codeAt source (position + 1) == 47 then
        skipBlanks source steps (skipWhile (!isLineEnd ·) source source.size position) line
      else if code == 47 && codeAt source (position + 1) == 42 then
        match commentEnd? source source.size (position + 2) line with
        | some (position, line) => skipBlanks source steps position line
        | none => throw "unexpected end of comment"
      else pure (position, line)

def digits (base : Nat) (source : Source) (position : Nat) : Except String (Nat × Nat × Nat) :=
  let rec go (steps position : Nat) (value count : Nat) (separated : Bool) :
      Except String (Nat × Nat × Nat) :=
    match steps with
    | 0 => pure (value, count, position)
    | steps + 1 =>
      let code := if position < source.size then codeAt source position else 0
      match digitOf? base code with
      | some digit => go steps (position + 1) (value * base + digit) (count + 1) false
      | none =>
        if code == 95 then
          if separated || count == 0 then throw "invalid number literal"
          else go steps (position + 1) value count true
        else if separated then throw "invalid number literal"
        else pure (value, count, position)
  go (source.size + 1) position 0 0 false

def numberAt (source : Source) (start : Nat) : Except String (Token × Nat) := do
  let finish (token : Token) (position : Nat) : Except String (Token × Nat) :=
    if position < source.size &&
        (isNameStart (codeAt source position) || isDigit (codeAt source position) || codeAt source position == 92) then
      throw "invalid number literal"
    else pure (token, position)
  let first := codeAt source start
  let second := codeAt source (start + 1)
  let base := if first != 48 then 10 else if second == 120 || second == 88 then 16
    else if second == 111 || second == 79 then 8 else if second == 98 || second == 66 then 2 else 10
  if base != 10 then
    let (value, count, position) ← digits base source (start + 2)
    if count == 0 then throw "invalid number literal"
    else if codeAt source position == 110 then finish (.number (.bigint value)) (position + 1)
    else finish (.number (.ofFloat (Decimal.nearest value 0))) position
  else if first == 48 && isDigit second then
    let position := skipWhile isDigit source source.size start
    let codes := (source.extract start position).toList
    if codes.all (· < 56) then
      let value := codes.foldl (fun n code => n * 8 + (code - 48)) 0
      finish (.octal (.ofFloat (Decimal.nearest value 0))) position
    else
      let value := codes.foldl (fun n code => n * 10 + (code - 48)) 0
      finish (.octal (.ofFloat (Decimal.nearest value 0))) position
  else
    let (whole, count, position) ← digits 10 source start
    if first == 48 && count == 1 && codeAt source (start + 1) == 95 then throw "invalid number literal"
    else if 0 < count && codeAt source position == 110 then
      finish (.number (.bigint whole)) (position + 1)
    else
      let (value, places, position) ← if codeAt source position == 46 then
          if codeAt source (position + 1) == 95 then throw "invalid number literal"
          else do
            let (fraction, places, position) ← digits 10 source (position + 1)
            pure (whole * Nat.pow 10 places + fraction, places, position)
        else pure (whole, 0, position)
      let mark := codeAt source position
      if mark == 101 || mark == 69 then
        let sign := codeAt source (position + 1)
        let begin := if sign == 43 || sign == 45 then position + 2 else position + 1
        let (exponent, count, position) ← digits 10 source begin
        if count == 0 then throw "invalid number literal"
        else
          let exponent : Int := if sign == 45 then -exponent else exponent
          finish (.number (.ofFloat (Decimal.nearest value (exponent - places)))) position
      else finish (.number (.ofFloat (Decimal.nearest value (-(places : Int))))) position

def hexAt? (source : Source) (position count : Nat) : Option Nat :=
  let codes := source.extract position (position + count)
  if codes.size < count then none
  else codes.foldl (fun value code => do
    let value ← value
    let digit ← digitOf? 16 code
    pure (value * 16 + digit)) (some 0)

def unicodeAt? (source : Source) (position : Nat) : Option (Nat × Nat) :=
  if codeAt source position == 123 then
    let finish := skipWhile (fun code => (digitOf? 16 code).isSome) source source.size (position + 1)
    let value := (source.extract (position + 1) finish).foldl
      (fun value code => value * 16 + (digitOf? 16 code).getD 0) 0
    if finish = position + 1 || codeAt source finish != 125 || 0x10FFFF < value then none
    else some (value, finish + 1)
  else (hexAt? source position 4).map fun value => (value, position + 4)

inductive Escape where
  | codes (units : List UInt16) (octal : Bool)
  | invalid

def escapeAt (source : Source) (position : Nat) : Escape × Nat :=
  let code := codeAt source position
  let one (code : Nat) := (Escape.codes [code.toUInt16] false, position + 1)
  if source.size ≤ position then (.invalid, position)
  else if code == 110 then one 10
  else if code == 116 then one 9
  else if code == 114 then one 13
  else if code == 98 then one 8
  else if code == 118 then one 11
  else if code == 102 then one 12
  else if code == 13 then (.codes [] false, if codeAt source (position + 1) == 10 then position + 2 else position + 1)
  else if isLineEnd code then (.codes [] false, position + 1)
  else if code == 120 then
    match hexAt? source (position + 1) 2 with
    | some value => (.codes [value.toUInt16] false, position + 3)
    | none => (.invalid, position + 1)
  else if code == 117 then
    match unicodeAt? source (position + 1) with
    | some (value, finish) => (.codes (Units.ofCode value) false, finish)
    | none => (.invalid, position + 1)
  else if code == 48 && !isDigit (codeAt source (position + 1)) then one 0
  else if 48 ≤ code && code < 56 then
    let second := (digitOf? 8 (codeAt source (position + 1)))
    let third := if code < 52 then digitOf? 8 (codeAt source (position + 2)) else none
    match second, third with
    | some b, some c => (.codes [((code - 48) * 64 + b * 8 + c).toUInt16] true, position + 3)
    | some b, none => (.codes [((code - 48) * 8 + b).toUInt16] true, position + 2)
    | none, _ => (.codes [(code - 48).toUInt16] true, position + 1)
  else if code == 56 || code == 57 then (.codes [code.toUInt16] true, position + 1)
  else (.codes (Units.ofCode code) false, position + 1)

def textAt (quote : Nat) (source : Source) :
    Nat → Nat → Units → Bool → Bool → Except String (Token × Nat)
  | 0, _, _, _, _ => throw "unexpected end of string"
  | steps + 1, position, value, plain, hasOctal =>
    let code := codeAt source position
    if source.size ≤ position || code == 10 || code == 13 then throw "unexpected end of string"
    else if code == quote then pure (.text value plain hasOctal, position + 1)
    else if code == 92 then
      match escapeAt source (position + 1) with
      | (.codes units isOctal, finish) =>
        textAt quote source steps finish (units.foldl Array.push value) false (hasOctal || isOctal)
      | (.invalid, _) => throw "malformed escape sequence in string literal"
    else textAt quote source steps (position + 1) ((Units.ofCode code).foldl Array.push value) plain hasOctal

def templateAt (source : Source) :
    Nat → Nat → Option Units → Units → Except String (Token × Nat)
  | 0, _, _, _ => throw "unexpected end of string"
  | steps + 1, position, cooked, raw =>
    let code := codeAt source position
    let push (text : Units) (units : List UInt16) := units.foldl Array.push text
    if source.size ≤ position then throw "unexpected end of string"
    else if code == 96 then pure (.template cooked raw true, position + 1)
    else if code == 36 && codeAt source (position + 1) == 123 then
      pure (.template cooked raw false, position + 2)
    else if code == 13 then
      let finish := if codeAt source (position + 1) == 10 then position + 2 else position + 1
      templateAt source steps finish (cooked.map (·.push 10)) (raw.push 10)
    else if code == 92 then
      let (escape, finish) := escapeAt source (position + 1)
      let finish := max finish (position + 2)
      let written := (source.extract position finish).toList.filter (· != 13)
      let raw := written.foldl (fun raw code => push raw (Units.ofCode code)) raw
      let raw := if codeAt source (position + 1) == 13 && codeAt source (position + 2) != 10 then raw.push 10
        else raw
      match escape with
      | .codes units false => templateAt source steps finish (cooked.map (push · units)) raw
      | _ => templateAt source steps finish none raw
    else
      let units := Units.ofCode code
      templateAt source steps (position + 1) (cooked.map (push · units)) (push raw units)

def nameAt (source : Source) :
    Nat → Nat → String → Bool → Except String (String × Nat × Bool)
  | 0, position, name, escaped => pure (name, position, escaped)
  | steps + 1, position, name, escaped =>
    let allowed (code : Nat) := if name.isEmpty then isNameStart code else isNameRest code
    if source.size ≤ position then pure (name, position, escaped)
    else
      let code := codeAt source position
      if allowed code then nameAt source steps (position + 1) (name.push (Char.ofNat code)) escaped
      else if code == 92 then
        if codeAt source (position + 1) != 117 then throw "unexpected token"
        else match unicodeAt? source (position + 2) with
          | some (code, finish) =>
            if allowed code then nameAt source steps finish (name.push (Char.ofNat code)) true
            else throw "unexpected token"
          | none => throw "unexpected token"
      else pure (name, position, escaped)

/-- All marks, longer ones before those that begin them. -/
def marks : List String :=
  [">>>=", "...", "===", "!==", "**=", "<<=", ">>=", ">>>", "&&=", "||=", "??=",
    "=>", "==", "!=", "<=", ">=", "&&", "||", "??", "?.", "++", "--", "+=", "-=", "*=", "/=", "%=",
    "&=", "|=", "^=", "<<", ">>", "**",
    "\x7b", "\x7d", "(", ")", "[", "]", ";", ",", "<", ">", "+", "-", "*", "/", "%", "&", "|", "^",
    "!", "~", "?", ":", "=", ".", "@"]

def markCodes : List (String × List Nat) :=
  marks.map fun mark => (mark, mark.toList.map Char.toNat)

def standsAt (source : Source) (position : Nat) : List Nat → Bool
  | [] => true
  | code :: rest => codeAt source position == code && standsAt source (position + 1) rest

def scan (source : Source) (position : Nat) : Except String (Token × Nat) :=
  let code := codeAt source position
  if source.size ≤ position then pure (.eof, position)
  else if isDigit code || (code == 46 && isDigit (codeAt source (position + 1))) then
    numberAt source position
  else if code == 34 || code == 39 then
    textAt code source source.size (position + 1) #[] true false
  else if code == 96 then templateAt source source.size (position + 1) (some #[]) #[]
  else if isNameStart code || code == 92 then do
    let (name, finish, escaped) ← nameAt source source.size position "" false
    pure (.word name escaped, finish)
  else if code == 35 then do
    let (name, finish, _) ← nameAt source source.size (position + 1) "" false
    if name.isEmpty then throw "unexpected token" else pure (.secret ("#" ++ name), finish)
  else
    match markCodes.find? fun (_, codes) => standsAt source position codes with
    | some (shape, codes) =>
      if shape == "?." && isDigit (codeAt source (position + 2)) then pure (.mark "?", position + 1)
      else pure (.mark shape, position + codes.length)
    | none => throw "unexpected character"

def regexpEnd? (source : Source) : Nat → Nat → Bool → Option Nat
  | 0, _, _ => none
  | steps + 1, position, inClass =>
    let code := codeAt source position
    if source.size ≤ position || isLineEnd code then none
    else if code == 92 then
      if isLineEnd (codeAt source (position + 1)) then none
      else regexpEnd? source steps (position + 2) inClass
    else if code == 91 then regexpEnd? source steps (position + 1) true
    else if code == 93 then regexpEnd? source steps (position + 1) false
    else if code == 47 && !inClass then some position
    else regexpEnd? source steps (position + 1) inClass

end Token

end ScriptSandbox.Script
