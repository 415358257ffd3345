import ScriptSandbox.Script.Instructions
import ScriptSandbox.Script.Library.Array

/-!
Regular expressions as objects: matching from the place they remember, and the operations on texts that
they take part in.
-/

namespace ScriptSandbox.Script.Library

open Execution

variable [Engine]

structure Match where
  subject : Units
  groups : Array (Option (Nat × Nat))
  names : List (String × Nat)

namespace Match

def bounds (found : Match) : Nat × Nat := (found.groups.getD 0 none).getD (0, 0)

def group (found : Match) (index : Nat) : Value :=
  match found.groups.getD index none with
  | some (first, last) => .text (found.subject.extract first last)
  | none => .undefined

end Match

def characterStarts (codes : Array Nat) : Array Nat :=
  (codes.foldl (fun (starts, position) code =>
    (starts.push position, position + (if code < 0x10000 then 1 else 2)))
    ((#[] : Array Nat), 0)).1

def search (compiled : Regexp.Compiled) (subject : Units) (start : Nat) (exactly : Bool) : Option Match :=
  let rec seek (codes : Array Nat) : Nat → Nat → Option (Array (Option (Nat × Nat)))
    | 0, _ => none
    | steps + 1, position =>
      match Regexp.matchAt? compiled codes position with
      | some groups => some groups
      | none => if exactly then none else seek codes steps (position + 1)
  if compiled.flags.unicode then
    let codes := subject.codes
    let starts := characterStarts codes
    let unitOf (position : Nat) : Nat := starts.getD position subject.size
    let first := (starts.findIdx? (start ≤ ·)).getD codes.size
    (seek codes (codes.size + 1 - first) first).map fun groups =>
      { subject, names := compiled.names
        groups := groups.map fun bounds => bounds.map fun (a, b) => (unitOf a, unitOf b) }
  else
    let codes := subject.map UInt16.toNat
    (seek codes (codes.size + 1 - start) start).map fun groups =>
      { subject, names := compiled.names, groups }

def regexpOf (value : Value) : Execution (Ref × Units × Units × Regexp.Compiled) := do
  match value with
  | .object ref =>
    match ← kindOf ref with
    | .regexp source flags compiled => return (ref, source, flags, compiled)
    | _ => throwType "not a RegExp object"
  | _ => throwType "not a RegExp object"

/-- Matches from the remembered place on, and remembers where the match ended. -/
def execute (value : Value) (subject : Units) : Execution (Option Match) := do
  let (ref, _, _, compiled) ← regexpOf value
  let remembers := compiled.flags.global || compiled.flags.sticky
  let lastIndex ← (← value.get lastIndexKey).toLength
  let start := if remembers then lastIndex else 0
  let found := if subject.size < start then none
    else search compiled subject start compiled.flags.sticky
  match found with
  | some found =>
    if remembers then ref.put lastIndexKey (.ofNat found.bounds.2)
    return some found
  | none =>
    if remembers then ref.put lastIndexKey (.integer 0)
    return none

def matchObject (found : Match) : Execution Value := do
  let items := (Array.range found.groups.size).map found.group
  match ← newArrayOf items with
  | .object ref =>
    ref.create (.ofString "index") (.ofNat found.bounds.1)
    ref.create (.ofString "input") (.text found.subject)
    let groups ← if found.names.isEmpty then pure .undefined
      else do
        let groups ← allocate (Object.create .ordinary none)
        for (name, index) in found.names do
          groups.create (.ofString name) (found.group index)
        pure (.object groups)
    ref.create (.ofString "groups") groups
    return .object ref
  | other => return other

def stepOver (unicode : Bool) (subject : Units) (position : Nat) : Nat :=
  if unicode then match subject.codeAt? position with
    | some (_, count) => position + count
    | none => position + 1
  else position + 1

def allMatches (value : Value) (subject : Units) : Execution (List Match) := do
  let (ref, _, _, compiled) ← regexpOf value
  ref.put lastIndexKey (.integer 0)
  let found ← repeating ([] : List Match) fun done => do
    match ← execute value subject with
    | none => return .inr done
    | some found =>
      let (first, last) := found.bounds
      if first = last then
        ref.put lastIndexKey (.ofNat (stepOver compiled.flags.unicode subject last))
      return .inl (found :: done)
  return found.reverse

def fillIn (found : Match) (text : Units) : Units :=
  let (first, last) := found.bounds
  let digit (position : Nat) : Option Nat := match text[position]? with
    | some unit => if 48 ≤ unit && unit ≤ 57 then some (unit.toNat - 48) else none
    | none => none
  let groupText (index : Nat) : Units := match found.group index with
    | .text text => text
    | _ => #[]
  let rec go : Nat → Nat → Units → Units
    | 0, _, done => done
    | steps + 1, position, done =>
      match text[position]? with
      | none => done
      | some unit =>
        if unit != 36 then go steps (position + 1) (done.push unit)
        else match text[position + 1]? with
          | some 36 => go steps (position + 2) (done.push 36)
          | some 38 => go steps (position + 2) (done ++ found.subject.extract first last)
          | some 96 => go steps (position + 2) (done ++ found.subject.extract 0 first)
          | some 39 => go steps (position + 2) (done ++ found.subject.extract last found.subject.size)
          | some 60 =>
            if found.names.isEmpty then go steps (position + 1) (done.push unit)
            else
              let name := (text.extract (position + 2) text.size).toList.takeWhile (· != 62)
              let finish := position + 2 + name.length
              if finish < text.size then
                let index := (found.names.lookup (Units.toText name.toArray)).getD found.groups.size
                go steps (finish + 1) (done ++ groupText index)
              else go steps (position + 1) (done.push unit)
          | _ =>
            match digit (position + 1), digit (position + 2) with
            | some a, some b =>
              if 0 < a * 10 + b && a * 10 + b < found.groups.size then
                go steps (position + 3) (done ++ groupText (a * 10 + b))
              else if 0 < a && a < found.groups.size then go steps (position + 2) (done ++ groupText a)
              else go steps (position + 1) (done.push unit)
            | some a, none =>
              if 0 < a && a < found.groups.size then go steps (position + 2) (done ++ groupText a)
              else go steps (position + 1) (done.push unit)
            | none, _ => go steps (position + 1) (done.push unit)
  go (text.size + 1) 0 #[]

def replacementFor (found : Match) (replacement : Value) : Execution Units := do
  if ← isCallable replacement then
    let groups := (Array.range found.groups.size).map found.group
    let place := #[Value.ofNat found.bounds.1, Value.text found.subject]
    let named ← if found.names.isEmpty then pure #[]
      else do
        let ref ← allocate (Object.create .ordinary none)
        for (name, index) in found.names do
          ref.create (.ofString name) (found.group index)
        pure #[Value.object ref]
    (← Engine.call replacement .undefined (groups ++ place ++ named)).toUnits
  else return fillIn found (← replacement.toUnits)

def replaceMatches (subject : Units) (matches_ : List Match) (replacement : Value) : Execution Units := do
  let (done, position) ← repeating (matches_, (#[] : Units), (0 : Nat)) fun (rest, done, position) => do
    match rest with
    | [] => return .inr (done, position)
    | found :: rest =>
      let text ← replacementFor found replacement
      return .inl (rest, done ++ subject.extract position found.bounds.1 ++ text, found.bounds.2)
  return done ++ subject.extract position subject.size

def replaceIn (value : Value) (subject : Units) (replacement : Value) : Execution Value := do
  let (_, _, _, compiled) ← regexpOf value
  let replacement ← if ← isCallable replacement then pure replacement
    else Value.text <$> replacement.toUnits
  let found ← if compiled.flags.global then allMatches value subject
    else return ← (do
      match ← execute value subject with
      | some found => newText (← replaceMatches subject [found] replacement)
      | none => return .text subject)
  newText (← replaceMatches subject found replacement)

def splitBy (compiled : Regexp.Compiled) (subject : Units) (limit : Nat) : Execution Value := do
  if limit = 0 then newArrayOf #[]
  else if subject.isEmpty then
    newArrayOf (if (search compiled subject 0 true).isSome then #[] else #[.text subject])
  else
    let pieces ← repeating ((0 : Nat), (0 : Nat), (#[] : Array Value)) fun (start, position, done) => do
      if subject.size ≤ position || limit ≤ done.size then
        return .inr (done.push (.text (subject.extract start subject.size)))
      else match search compiled subject position false with
        | none => return .inr (done.push (.text (subject.extract start subject.size)))
        | some found =>
          let (first, last) := found.bounds
          if subject.size ≤ first then
            return .inr (done.push (.text (subject.extract start subject.size)))
          else if last = first && first = start then
            return .inl (start, stepOver compiled.flags.unicode subject position, done)
          else if last = first && first < position then
            return .inl (start, position + 1, done)
          else
            let groups := ((Array.range found.groups.size).map found.group).extract 1 found.groups.size
            let next := if last = first then last else last
            return .inl (next, max next (position + 1), done.push (.text (subject.extract start first)) ++ groups)
    newArrayOf (pieces.extract 0 limit)

/-- The source of a regular expression as it can be written between slashes. -/
def sourceText (source : Units) : Units :=
  if source.isEmpty then Units.ofString "(?:)"
  else
    (source.foldl (fun (done, escaped, inClass) unit =>
      if unit == 10 then (done ++ Units.ofString "\\n", false, inClass)
      else if escaped then (done.push unit, false, inClass)
      else if unit == 92 then (done.push unit, true, inClass)
      else if unit == 47 && !inClass then (done ++ Units.ofString "\\/", false, inClass)
      else (done.push unit, false, unit == 91 || (inClass && unit != 93)))
      ((#[] : Units), false, false)).1

def makeRegexpMethod : Method :=
  constructor "RegExp" 2 fun call => do
    let parent ← parentFor call.newTarget .regexpPrototype
    let (source, flags) ← match call.first with
      | .object ref => do
        match ← kindOf ref with
        | .regexp source flags _ =>
          pure (source, ← if call.second.isUndefined then pure flags else call.second.toUnits)
        | _ => pure (← call.first.toUnits, ← if call.second.isUndefined then pure #[] else call.second.toUnits)
      | .undefined => pure (#[], ← if call.second.isUndefined then pure #[] else call.second.toUnits)
      | other => pure (← other.toUnits, ← if call.second.isUndefined then pure #[] else call.second.toUnits)
    makeRegexp source flags parent

def flagGetter (name : String) (flag : Regexp.Flags → Bool) : Method :=
  method ("get " ++ name) 0 fun call => do
    match call.this with
    | .object ref =>
      match ← kindOf ref with
      | .regexp _ _ compiled => return .boolean (flag compiled.flags)
      | _ => if ref = Intrinsic.regexpPrototype.ref then return .undefined else throwType "not a RegExp object"
    | _ => throwType "not a RegExp object"

def regexpGetters : List (String × Method) := [
  ("global", flagGetter "global" (·.global)),
  ("ignoreCase", flagGetter "ignoreCase" (·.ignoreCase)),
  ("multiline", flagGetter "multiline" (·.multiline)),
  ("dotAll", flagGetter "dotAll" (·.dotAll)),
  ("unicode", flagGetter "unicode" (fun flags => flags.unicode && !flags.sets)),
  ("unicodeSets", flagGetter "unicodeSets" (·.sets)),
  ("sticky", flagGetter "sticky" (·.sticky)),
  ("hasIndices", flagGetter "hasIndices" (·.indices)),
  ("flags", method "get flags" 0 fun call => do
    let parts := [("hasIndices", "d"), ("global", "g"), ("ignoreCase", "i"), ("multiline", "m"),
      ("dotAll", "s"), ("unicode", "u"), ("unicodeSets", "v"), ("sticky", "y")]
    let found ← parts.filterMapM fun (name, mark) => do
      if (← call.this.get (.ofString name)).truthy then return some mark else return none
    return .ofString ("".intercalate found)),
  ("source", method "get source" 0 fun call => do
    match call.this with
    | .object ref =>
      match ← kindOf ref with
      | .regexp source _ _ => return .text (sourceText source)
      | _ =>
        if ref = Intrinsic.regexpPrototype.ref then return .ofString "(?:)"
        else throwType "not a RegExp object"
    | _ => throwType "not a RegExp object")]

def regexpMethods : List Method := [
  method "exec" 1 fun call => do
    match ← execute call.this (← call.first.toUnits) with
    | some found => matchObject found
    | none => return .null,
  method "test" 1 fun call => do
    return .boolean (← execute call.this (← call.first.toUnits)).isSome,
  method "toString" 0 fun call => do
    let source ← (← call.this.get (.ofString "source")).toUnits
    let flags ← (← call.this.get (.ofString "flags")).toUnits
    return .text (Units.ofString "/" ++ source ++ Units.ofString "/" ++ flags),
  method "compile" 2 fun call => return call.this]

def symbolRegexpMethods : List (WellKnown × Method) := [
  (.match_, method "[Symbol.match]" 1 fun call => do
    let subject ← call.first.toUnits
    let (_, _, _, compiled) ← regexpOf call.this
    if compiled.flags.global then
      match ← allMatches call.this subject with
      | [] => return .null
      | found => newArrayOf (found.map (·.group 0)).toArray
    else match ← execute call.this subject with
      | some found => matchObject found
      | none => return .null),
  (.matchAll, method "[Symbol.matchAll]" 1 fun call => do
    let subject ← call.first.toUnits
    let (_, source, flags, compiled) ← regexpOf call.this
    let copy ← makeRegexp source flags Intrinsic.regexpPrototype.ref
    let lastIndex ← call.this.get lastIndexKey
    match copy with
    | .object ref =>
      ref.put lastIndexKey lastIndex
      let course := Course.matches ref subject compiled.flags.global compiled.flags.unicode
      return .object (← newObject (.iterator course) .regexpIteratorPrototype)
    | other => return other),
  (.replace, method "[Symbol.replace]" 2 fun call => do
    replaceIn call.this (← call.first.toUnits) call.second),
  (.search, method "[Symbol.search]" 1 fun call => do
    let subject ← call.first.toUnits
    let (_, _, _, compiled) ← regexpOf call.this
    match search compiled subject 0 compiled.flags.sticky with
    | some found => return .ofNat found.bounds.1
    | none => return .integer (-1)),
  (.split, method "[Symbol.split]" 2 fun call => do
    let subject ← call.first.toUnits
    let (_, _, _, compiled) ← regexpOf call.this
    let limit ← if call.second.isUndefined then pure 4294967295 else call.second.toUInt32
    splitBy compiled subject limit)]

def regexpIteratorMethods : List Method := [
  method "next" 0 fun call => do
    match call.this with
    | .object ref =>
      match ← kindOf ref with
      | .iterator (.matches regexp subject all unicode) =>
        match ← execute (.object regexp) subject with
        | none =>
          setKind ref (.iterator .ended)
          iterationResult .undefined true
        | some found =>
          let (first, last) := found.bounds
          if all && first = last then
            regexp.put lastIndexKey (.ofNat (stepOver unicode subject last))
          if !all then setKind ref (.iterator .ended)
          iterationResult (← matchObject found) false
      | .iterator _ => iterationResult .undefined true
      | _ => throwType "not an iterator"
    | _ => throwType "not an iterator"]

end ScriptSandbox.Script.Library
