import ScriptSandbox.Script.Library.Regexp
import ScriptSandbox.Text.Case

/-!
Texts as scripts handle them. Methods that look for something first ask the thing itself: a regular
expression answers through its symbols.
-/

namespace ScriptSandbox.Script.Library

open Execution

def lowerUnits (text : Units) : Units :=
  let codes := text.codes
  (codes.foldl (fun (done, position) code =>
    let found := if code = 0x3A3 && endsWord codes position then [0x3C2] else Text.lowerCodes code
    (done ++ (found.flatMap Units.ofCode).toArray, position + 1)) ((#[] : Units), 0)).1
where
  isLetter (code : Nat) : Bool := Text.lowerCodes code != [code] || Text.upperCodes code != [code]
  /-- Whether a letter stands before a position and none after it. -/
  endsWord (codes : Array Nat) (position : Nat) : Bool :=
    0 < position && isLetter (codes.getD (position - 1) 0) &&
      !(codes[position + 1]?.any isLetter)

def upperUnits (text : Units) : Units :=
  text.codes.foldl (fun done code => done ++ ((Text.upperCodes code).flatMap Units.ofCode).toArray) #[]

def isWellFormed (text : Units) : Bool :=
  text.codes.all fun code => !(0xD800 ≤ code && code ≤ 0xDFFF)

variable [Engine]

def thisText (call : Call) : Execution Units := do
  match call.this with
  | .undefined => throwType "null or undefined are forbidden"
  | .null => throwType "null or undefined are forbidden"
  | value => value.toUnits

def textOf (value : Value) : Execution Units := do
  match value with
  | .text content => return content
  | .object ref =>
    match ← kindOf ref with
    | .boxed (.text content) => return content
    | _ => throwType "not a string"
  | _ => throwType "not a string"

/-- Whether a value matches texts rather than being one. -/
def isRegexp (value : Value) : Execution Bool := do
  match value with
  | .object ref =>
    match ← value.get WellKnown.match_.key with
    | .undefined =>
      match ← kindOf ref with
      | .regexp .. => return true
      | _ => return false
    | found => return found.truthy
  | _ => return false

def plainArgument (value : Value) : Execution Units := do
  if ← isRegexp value then throwType "regexp not supported" else value.toUnits

def askArgument (symbol : WellKnown) (call : Call) (rest : Array Value) : Execution (Option Value) := do
  if call.first.isNullish then return none
  else
    match ← call.first.getMethod symbol.key with
    | some function => return some (← Engine.call function call.first (#[call.this] ++ rest))
    | none => return none

def refuseNullish (value : Value) : Execution Unit := do
  if value.isNullish then throwType "cannot convert to object"

def clampedPosition (value : Value) (length : Nat) : Execution Nat := do
  let x ← value.toInteger
  if x ≤ 0 then return 0
  else if Float.ofNat length ≤ x then return length
  else return (Number.truncate x).toNat

/-- A position, where `undefined` means the end. -/
def endPosition (value : Value) (length : Nat) : Execution Nat :=
  if value.isUndefined then pure length else clampedPosition value length

def unitAt? (text : Units) (value : Value) : Execution (Option UInt16) := do
  let x ← value.toInteger
  if 0 ≤ x && x < Float.ofNat text.size then return text[(Number.truncate x).toNat]? else return none

def repeatText (call : Call) : Execution Value := do
  let text ← thisText call
  let x ← call.first.toInteger
  if x < 0 || 2147483647 < x then throwNew .rangeError "invalid repeat count"
  else
    let count := (Number.truncate x).toNat
    if text.isEmpty || count = 1 then return .text text
    else if longestText < text.size * count then throwNew .rangeError "invalid string length"
    else
      let size := text.size * count
      charge (24 + (if text.any (255 < ·) then 2 * size else size))
      return .text (text.replicate count)

def pad (call : Call) (atEnd : Bool) : Execution Value := do
  let text ← thisText call
  let length ← call.first.toLength
  let filler ← if call.second.isUndefined then pure (Units.ofString " ") else call.second.toUnits
  if length ≤ text.size || filler.isEmpty then return .text text
  else if longestText < length then throwNew .rangeError "invalid string length"
  else
    let missing := length - text.size
    charge (24 + length)
    let padding := (filler.replicate (missing / filler.size + 1)).extract 0 missing
    return .text (if atEnd then text ++ padding else padding ++ text)

def replacePlain (call : Call) (everywhere : Bool) : Execution Value := do
  let text ← thisText call
  let needle ← call.first.toUnits
  let replacement ← if ← isCallable call.second then pure call.second
    else Value.text <$> call.second.toUnits
  let matchAt (position : Nat) : Match :=
    { subject := text, groups := #[some (position, position + needle.size)], names := [] }
  let rec places : Nat → Nat → List Match
    | 0, _ => []
    | steps + 1, start =>
      match text.find? needle start with
      | none => []
      | some position => matchAt position :: places steps (position + max 1 needle.size)
  let found := if everywhere then places (text.size + 1) 0 else places 1 0
  match found with
  | [] => return .text text
  | found => newText (← replaceMatches text found replacement)

def splitPlain (text separator : Units) (limit : Nat) : Execution Value := do
  let pieces : Array Value :=
    if separator.isEmpty then text.map unitText
    else
      let rec go : Nat → Nat → Array Value → Array Value
        | 0, start, done => done.push (.text (text.extract start text.size))
        | steps + 1, start, done =>
          match text.find? separator start with
          | none => done.push (.text (text.extract start text.size))
          | some position =>
            go steps (position + separator.size) (done.push (.text (text.extract start position)))
      go (text.size + 1) 0 #[]
  newArrayOf (pieces.extract 0 limit)

def withRegexp (call : Call) (symbol : WellKnown) (flags : Units) : Execution Value := do
  let text ← thisText call
  let source ← if call.first.isUndefined then pure #[] else call.first.toUnits
  let regexp ← makeRegexp source flags Intrinsic.regexpPrototype.ref
  match ← regexp.getMethod symbol.key with
  | some function => Engine.call function regexp #[.text text]
  | none => throwType "not a function"

def needsGlobal (value : Value) : Execution Unit := do
  if ← isRegexp value then
    let flags ← value.get (.ofString "flags")
    refuseNullish flags
    if !(← flags.toUnits).contains 103 then throwType "regexp must have the 'g' flag"

def compareTexts (a b : Units) : Int :=
  match compareOfLessAndEq (a.codes.toList) (b.codes.toList) with
  | .lt => -1
  | .eq => 0
  | .gt => 1

def caseMethod (name : String) (change : Units → Units) : Method :=
  method name 0 fun call => do newText (change (← thisText call))

def markup (name tag : String) (quality : Option String) : Method :=
  method name (if quality.isSome then 1 else 0) fun call => do
    let text ← thisText call
    let start ← match quality with
      | none => pure (Units.ofString ("<" ++ tag ++ ">"))
      | some quality => do
        let value := ((← call.first.toUnits).toList.flatMap fun unit =>
          if unit == 34 then "&quot;".toList.map (·.val.toUInt16) else [unit]).toArray
        pure (Units.ofString ("<" ++ tag ++ " " ++ quality ++ "=\"") ++ value ++ Units.ofString "\">")
    newText (start ++ text ++ Units.ofString ("</" ++ tag ++ ">"))

def textMethods : List Method := [
  method "at" 1 fun call => do
    let text ← thisText call
    let x ← call.first.toInteger
    let x := if x < 0 then x + Float.ofNat text.size else x
    if 0 ≤ x && x < Float.ofNat text.size then
      return ((text[(Number.truncate x).toNat]?).map unitText).getD .undefined
    else return .undefined,
  method "charCodeAt" 1 fun call => do
    match ← unitAt? (← thisText call) call.first with
    | some unit => return .ofNat unit.toNat
    | none => return .number Number.nan,
  method "charAt" 1 fun call => do
    match ← unitAt? (← thisText call) call.first with
    | some unit => return unitText unit
    | none => return .text #[],
  method "concat" 1 fun call => do
    let mut text ← thisText call
    for value in call.arguments do
      text := text ++ (← value.toUnits)
    newText text,
  method "codePointAt" 1 fun call => do
    let text ← thisText call
    let x ← call.first.toInteger
    if 0 ≤ x && x < Float.ofNat text.size then
      return ((text.codeAt? (Number.truncate x).toNat).map fun (code, _) => Value.ofNat code).getD .undefined
    else return .undefined,
  method "isWellFormed" 0 fun call => do return .boolean (isWellFormed (← thisText call)),
  method "toWellFormed" 0 fun call => do
    return .text (((← thisText call).codes.toList.flatMap fun code =>
      if 0xD800 ≤ code && code ≤ 0xDFFF then [0xFFFD] else Units.ofCode code).toArray),
  method "indexOf" 1 fun call => do
    let text ← thisText call
    let needle ← call.first.toUnits
    return indexOrMinusOne (text.find? needle (← clampedPosition call.second text.size)),
  method "lastIndexOf" 1 fun call => do
    let text ← thisText call
    let needle ← call.first.toUnits
    let x ← call.second.toFloat
    let limit := if x.isNaN || Float.ofNat text.size ≤ x then text.size
      else if x ≤ 0 then 0 else (Number.truncate x).toNat
    return indexOrMinusOne (text.findLast? needle limit),
  method "includes" 1 fun call => do
    let text ← thisText call
    let needle ← plainArgument call.first
    return .boolean (text.find? needle (← clampedPosition call.second text.size)).isSome,
  method "endsWith" 1 fun call => do
    let text ← thisText call
    let needle ← plainArgument call.first
    let finish ← endPosition call.second text.size
    return .boolean (needle.size ≤ finish && text.extract (finish - needle.size) finish == needle),
  method "startsWith" 1 fun call => do
    let text ← thisText call
    let needle ← plainArgument call.first
    let start ← clampedPosition call.second text.size
    return .boolean (text.extract start (start + needle.size) == needle),
  method "match" 1 fun call => do
    refuseNullish call.this
    match ← askArgument .match_ call #[] with
    | some found => return found
    | none => withRegexp call .match_ #[],
  method "matchAll" 1 fun call => do
    refuseNullish call.this
    needsGlobal call.first
    match ← askArgument .matchAll call #[] with
    | some found => return found
    | none => withRegexp call .matchAll (Units.ofString "g"),
  method "search" 1 fun call => do
    refuseNullish call.this
    match ← askArgument .search call #[] with
    | some found => return found
    | none => withRegexp call .search #[],
  method "split" 2 fun call => do
    refuseNullish call.this
    match ← askArgument .split call #[call.second] with
    | some found => return found
    | none =>
      let text ← thisText call
      let limit ← if call.second.isUndefined then pure 4294967295 else call.second.toUInt32
      let separator ← call.first.toUnits
      if limit = 0 then newArrayOf #[]
      else if call.first.isUndefined then newArrayOf #[.text text]
      else splitPlain text separator limit,
  method "substring" 2 fun call => do
    let text ← thisText call
    let first ← clampedPosition call.first text.size
    let last ← endPosition call.second text.size
    newText (text.extract (min first last) (max first last)),
  method "substr" 2 fun call => do
    let text ← thisText call
    let first ← call.first.toPosition text.size
    let count ← endPosition call.second (text.size - first)
    newText (text.extract first (first + count)),
  method "slice" 2 fun call => do
    let text ← thisText call
    let first ← call.first.toPosition text.size
    let last ← if call.second.isUndefined then pure text.size else call.second.toPosition text.size
    newText (text.extract first last),
  method "repeat" 1 repeatText,
  method "replace" 2 fun call => do
    refuseNullish call.this
    match ← askArgument .replace call #[call.second] with
    | some found => return found
    | none => replacePlain call false,
  method "replaceAll" 2 fun call => do
    refuseNullish call.this
    needsGlobal call.first
    match ← askArgument .replace call #[call.second] with
    | some found => return found
    | none => replacePlain call true,
  method "padEnd" 1 fun call => pad call true,
  method "padStart" 1 fun call => pad call false,
  caseMethod "trim" Number.trim,
  caseMethod "trimEnd" Number.trimEnd,
  caseMethod "trimStart" Number.trimStart,
  method "toString" 0 fun call => do return .text (← textOf call.this),
  method "valueOf" 0 fun call => do return .text (← textOf call.this),
  caseMethod "toLowerCase" lowerUnits,
  caseMethod "toUpperCase" upperUnits,
  caseMethod "toLocaleLowerCase" lowerUnits,
  caseMethod "toLocaleUpperCase" upperUnits,
  method "localeCompare" 1 fun call => do
    let text ← thisText call
    return .ofInt (compareTexts text (← call.first.toUnits)),
  method "normalize" 0 fun call => do
    let text ← thisText call
    let form ← if call.first.isUndefined then pure (Units.ofString "NFC") else call.first.toUnits
    if ["NFC", "NFD", "NFKC", "NFKD"].any fun known => Units.ofString known == form then return .text text
    else throwNew .rangeError "bad normalization form",
  markup "anchor" "a" (some "name"), markup "big" "big" none, markup "blink" "blink" none,
  markup "bold" "b" none, markup "fixed" "tt" none, markup "fontcolor" "font" (some "color"),
  markup "fontsize" "font" (some "size"), markup "italics" "i" none,
  markup "link" "a" (some "href"), markup "small" "small" none, markup "strike" "strike" none,
  markup "sub" "sub" none, markup "sup" "sup" none]

def textIterator : Method :=
  method "[Symbol.iterator]" 0 fun call => do
    let text ← thisText call
    return .object (← newObject (.iterator (.text text 0)) .stringIteratorPrototype)

def makeText : Method :=
  constructor "String" 1 fun call => do
    let text ← match call.arguments[0]? with
      | none => pure #[]
      | some (Value.symbol id) =>
        if call.newTarget.isUndefined then do
          let description ← gets fun machine => (machine.symbols.getD id none).getD #[]
          pure (Units.ofString "Symbol(" ++ description ++ Units.ofString ")")
        else Value.toUnits (.symbol id)
      | some value => value.toUnits
    if call.newTarget.isUndefined then return .text text
    else return .object (← newFor call.newTarget .stringPrototype (.boxed (.text text)))

def textStatics : List Method := [
  method "fromCharCode" 1 fun call => do
    let units ← call.arguments.mapM fun value => do return (← value.toInt32 : Int)
    newText (units.map fun n => (n % 65536).toNat.toUInt16),
  method "fromCodePoint" 1 fun call => do
    let codes ← call.arguments.mapM fun value => do
      let x ← value.toFloat
      if 0 ≤ x && x ≤ 1114111 && x.floor == x then return (Number.truncate x).toNat
      else throwNew .rangeError "invalid code point"
    newText (codes.toList.flatMap Units.ofCode).toArray,
  method "raw" 1 fun call => do
    let cooked ← call.first.toObject
    let raw ← (Value.object cooked).get (.ofString "raw")
    let pieces ← raw.toObject
    let length ← lengthOf (.object pieces)
    let text ← repeating ((0 : Nat), (#[] : Units)) fun (index, done) => do
      if length ≤ index then return .inr done
      else
        let done := done ++ (← (← (Value.object pieces).get (.index index)).toUnits)
        if index + 1 < length && index + 1 < call.count then
          return .inl (index + 1, done ++ (← (call.argument (index + 1)).toUnits))
        else return .inl (index + 1, done)
    newText text]

end ScriptSandbox.Script.Library
