import ScriptSandbox.Script.Functions

/-!
Dates: milliseconds since 1970 and their calendar. Local time is universal time.
-/

namespace ScriptSandbox.Script.Library

open Execution

/-! ### The calendar -/

def msPerDay : Int := 86400000

/-- Days from 1970 to the first of a month, counted from zero. -/
def daysToMonth (year month : Int) : Int :=
  let year := year + Int.fdiv month 12
  let month := Int.fmod month 12 + 1
  -- years begin in March, so that the leap day is their last one
  let y := if month ≤ 2 then year - 1 else year
  let era := Int.fdiv y 400
  let yearOfEra := y - era * 400
  let shifted := Int.fmod (month + 9) 12
  let dayOfYear := (153 * shifted + 2) / 5
  let dayOfEra := yearOfEra * 365 + yearOfEra / 4 - yearOfEra / 100 + dayOfYear
  era * 146097 + dayOfEra - 719468

/-- A moment by the calendar; the month counts from zero. -/
structure Moment where
  year : Int
  month : Int
  day : Int
  hour : Int
  minute : Int
  second : Int
  ms : Int
  weekday : Int

namespace Moment

def ofMs (time : Int) : Moment :=
  let days := Int.fdiv time msPerDay
  let rest := Int.fmod time msPerDay
  let z := days + 719468
  let era := Int.fdiv z 146097
  let dayOfEra := z - era * 146097
  let yearOfEra := (dayOfEra - dayOfEra / 1460 + dayOfEra / 36524 - dayOfEra / 146096) / 365
  let dayOfYear := dayOfEra - (365 * yearOfEra + yearOfEra / 4 - yearOfEra / 100)
  let shifted := (5 * dayOfYear + 2) / 153
  let day := dayOfYear - (153 * shifted + 2) / 5 + 1
  let month := if shifted < 10 then shifted + 2 else shifted - 10
  let year := yearOfEra + era * 400 + (if month ≤ 1 then 1 else 0)
  { year, month, day, hour := rest / 3600000, minute := rest / 60000 % 60, second := rest / 1000 % 60
    ms := rest % 1000, weekday := Int.fmod (days + 4) 7 }

end Moment

def latest : Float := 8.64e15

/-- A time within bounds, without parts of a millisecond. -/
def clipTime (x : Float) : Float :=
  if !x.isFinite || latest < x.abs then Number.nan else (if x < 0 then x.ceil else x.floor) + 0.0

def timeOf (fields : List Float) : Float :=
  if fields.any fun x => !x.isFinite || 1e17 < x.abs then Number.nan
  else
    let part (index : Nat) (default : Float) : Int := Number.truncate (fields.getD index default)
    let year := part 0 1970
    let month := part 1 0
    if 400000 < year.natAbs || 4000000 < month.natAbs then Number.nan
    else
      let days := daysToMonth year month + part 2 1 - 1
      clipTime (Float.ofInt (days * msPerDay + part 3 0 * 3600000 + part 4 0 * 60000 + part 5 0 * 1000 +
        part 6 0))

def dayNames : List String := ["Sun", "Mon", "Tue", "Wed", "Thu", "Fri", "Sat"]

def monthNames : List String :=
  ["Jan", "Feb", "Mar", "Apr", "May", "Jun", "Jul", "Aug", "Sep", "Oct", "Nov", "Dec"]

def padded (width : Nat) (n : Int) : String :=
  let digits := toString n.natAbs
  "".pushn '0' (width - digits.length) ++ digits

namespace Moment

def dayName (moment : Moment) : String := dayNames.getD moment.weekday.toNat ""

def monthName (moment : Moment) : String := monthNames.getD moment.month.toNat ""

def yearText (moment : Moment) : String :=
  (if moment.year < 0 then "-" else "") ++ padded (if moment.year < 0 then 6 else 4) moment.year

def clock (moment : Moment) : String :=
  padded 2 moment.hour ++ ":" ++ padded 2 moment.minute ++ ":" ++ padded 2 moment.second

def iso (moment : Moment) : String :=
  let year := if 0 ≤ moment.year && moment.year ≤ 9999 then padded 4 moment.year
    else (if moment.year < 0 then "-" else "+") ++ padded 6 moment.year
  year ++ "-" ++ padded 2 (moment.month + 1) ++ "-" ++ padded 2 moment.day ++ "T" ++ moment.clock ++ "." ++
    padded 3 moment.ms ++ "Z"

def dateText (moment : Moment) : String :=
  moment.dayName ++ " " ++ moment.monthName ++ " " ++ padded 2 moment.day ++ " " ++ moment.yearText

def timeText (moment : Moment) : String := moment.clock ++ " GMT+0000"

def universal (moment : Moment) : String :=
  moment.dayName ++ ", " ++ padded 2 moment.day ++ " " ++ moment.monthName ++ " " ++ moment.yearText ++ " " ++
    moment.clock ++ " GMT"

def localDate (moment : Moment) : String :=
  padded 2 (moment.month + 1) ++ "/" ++ padded 2 moment.day ++ "/" ++ moment.yearText

def localTime (moment : Moment) : String :=
  let hour := Int.emod (moment.hour + 11) 12 + 1
  padded 2 hour ++ ":" ++ padded 2 moment.minute ++ ":" ++ padded 2 moment.second ++
    (if moment.hour < 12 then " AM" else " PM")

end Moment

/-! ### Reading dates -/

def digitsOf? (count : Nat) (text : List Char) : Option (Int × List Char) :=
  let digits := text.take count
  if digits.length = count && digits.all Char.isDigit then
    some (Int.ofNat (Number.ofDigits 10 digits), text.drop count)
  else none

def marked? (mark : Char) (text : List Char) : Option (Int × List Char) :=
  match text with
  | c :: rest => if c = mark then digitsOf? 2 rest else none
  | [] => none

def zone? (text : List Char) : Option Int :=
  match text with
  | [] => some 0
  | ['Z'] => some 0
  | sign :: rest =>
    if sign = '+' ∨ sign = '-' then do
      let (hours, rest) ← digitsOf? 2 rest
      let rest := match rest with
        | ':' :: rest => rest
        | rest => rest
      let (minutes, rest) ← if rest.isEmpty then pure (0, []) else digitsOf? 2 rest
      if rest.isEmpty then pure ((if sign = '-' then -1 else 1) * (hours * 60 + minutes)) else none
    else none

def isoTime? (text : List Char) : Option Float := do
  let (year, rest) ← match text with
    | '+' :: rest => digitsOf? 6 rest
    | '-' :: rest => (digitsOf? 6 rest).map fun (year, rest) => (-year, rest)
    | rest => digitsOf? 4 rest
  let (month, rest) := (marked? '-' rest).getD (1, rest)
  let (day, rest) := (marked? '-' rest).getD (1, rest)
  if month < 1 || 12 < month || day < 1 || 31 < day then none
  else
    let start := daysToMonth year (month - 1) + day - 1
    match rest with
    | [] => pure (Float.ofInt (start * msPerDay))
    | mark :: rest =>
      if mark ≠ 'T' ∧ mark ≠ ' ' ∧ mark ≠ 't' then none
      else
        let (hour, rest) ← digitsOf? 2 rest
        let (minute, rest) ← marked? ':' rest
        let (second, rest) := (marked? ':' rest).getD (0, rest)
        let (ms, rest) := match rest with
          | '.' :: rest =>
            let digits := rest.takeWhile Char.isDigit
            (Int.ofNat (Number.ofDigits 10 ((digits ++ ['0', '0', '0']).take 3)), rest.drop digits.length)
          | rest => (0, rest)
        let minutes ← zone? rest
        if 24 < hour || 59 < minute || 59 < second then none
        else pure (Float.ofInt (start * msPerDay + hour * 3600000 + (minute - minutes) * 60000 +
          second * 1000 + ms))

def wordsOf (text : List Char) : List String :=
  ((String.ofList (text.map fun c => if c.isAlphanum || c == ':' || c == '+' then c else ' ')).splitOn " ").filter
    (!·.isEmpty)

def namedTime? (text : List Char) : Option Float := do
  let words := wordsOf text
  let month ← words.findSome? fun word => monthNames.findIdx? (·.toLower == (String.ofList (word.toList.take 3)).toLower)
  let numbers := words.filterMap String.toNat?
  let (day, year) ← match numbers with
    | day :: year :: _ => some (day, year)
    | _ => none
  let clock := (words.find? fun word => word.contains ':').map (·.splitOn ":")
  let part (index : Nat) : Nat := ((clock.bind (·[index]?)).bind String.toNat?).getD 0
  pure (timeOf [Float.ofNat year, Float.ofNat month, Float.ofNat day, Float.ofNat (part 0), Float.ofNat (part 1),
    Float.ofNat (part 2)])

def readTime (text : Units) : Float :=
  let chars := Number.asciiChars (Number.trim text)
  clipTime (((isoTime? chars).or (namedTime? chars)).getD Number.nan)

/-! ### Dates as objects -/

def dateOf (value : Value) : Execution (Ref × Float) := do
  match value with
  | .object ref =>
    match ← kindOf ref with
    | .date time => return (ref, time)
    | _ => throwType "not a Date object"
  | _ => throwType "not a Date object"

def currentTime : Execution Value := do
  return .ofFloat (Float.ofInt (← ask .time))

variable [Engine]

/-- Calendar fields from arguments; years of two digits are of the twentieth century. -/
def fieldsOf (arguments : Array Value) : Execution (List Float) := do
  let fields ← (arguments.extract 0 7).toList.mapM Value.toFloat
  match fields with
  | year :: rest =>
    let whole := if year.isFinite then Float.ofInt (Number.truncate year) else year
    return (if 0 ≤ whole && whole ≤ 99 then 1900 + whole else year) :: rest
  | [] => return [Number.nan]

def dateText (time : Float) (show_ : Moment → String) : Value :=
  if time.isNaN then .ofString "Invalid Date" else .ofString (show_ (Moment.ofMs (Number.truncate time)))

def fullText (moment : Moment) : String := moment.dateText ++ " " ++ moment.timeText

def makeDate : Method :=
  constructor "Date" 7 fun call => do
    let now : Execution Float := do return (Value.float? (← currentTime)).getD 0
    if call.newTarget.isUndefined then return dateText (← now) fullText
    else
      let time ← match call.arguments.toList with
        | [] => now
        | [single] => do
          let known ← match single with
            | .object ref => do
              match ← kindOf ref with
              | .date time => pure (some time)
              | _ => pure none
            | _ => pure none
          match known with
          | some time => pure time
          | none =>
            match ← single.toPrimitive .any with
            | .text content => pure (readTime content)
            | value => pure (clipTime (← value.toFloat))
        | _ => pure (timeOf (← fieldsOf call.arguments))
      return .object (← newFor call.newTarget .datePrototype (.date time))

def dateStatics : List Method := [
  method "now" 0 fun _ => currentTime,
  method "parse" 1 fun call => do return .ofFloat (readTime (← call.first.toUnits)),
  method "UTC" 7 fun call => do return .ofFloat (timeOf (← fieldsOf call.arguments))]

def showMethod (name : String) (show_ : Moment → String) : Method :=
  method name 0 fun call => do return dateText (← dateOf call.this).2 show_

def fieldMethods (name : String) (field : Moment → Int) : List Method :=
  ["get" ++ name, "getUTC" ++ name].map fun name =>
    method name 0 fun call => do
      let (_, time) ← dateOf call.this
      if time.isNaN then return .number Number.nan
      else return .ofInt (field (Moment.ofMs (Number.truncate time)))

def setterMethods (name : String) (start count : Nat) : List Method :=
  ["set" ++ name, "setUTC" ++ name].map fun name =>
    method name count fun call => do
      let (ref, time) ← dateOf call.this
      let given ← (call.arguments.extract 0 count).toList.mapM Value.toFloat
      let given := if given.isEmpty then [Number.nan] else given
      let base := if time.isNaN && start = 0 then some 0 else if time.isNaN then none else some time
      let time := match base with
        | none => Number.nan
        | some time =>
          let moment := Moment.ofMs (Number.truncate time)
          let fields := [moment.year, moment.month, moment.day, moment.hour, moment.minute, moment.second,
            moment.ms].map Float.ofInt
          timeOf (fields.take start ++ given ++ fields.drop (start + given.length))
      setKind ref (.date time)
      return .ofFloat time

def callIso (object : Value) : Execution Value := do
  Engine.call (← object.get (.ofString "toISOString")) object #[]

def dateMethods : List Method :=
  [method "valueOf" 0 fun call => do return .ofFloat (← dateOf call.this).2,
    method "getTime" 0 fun call => do return .ofFloat (← dateOf call.this).2,
    showMethod "toString" fullText,
    method "toISOString" 0 fun call => do
      let (_, time) ← dateOf call.this
      if time.isNaN then throwNew .rangeError "Date value is NaN"
      else return .ofString (Moment.ofMs (Number.truncate time)).iso,
    showMethod "toDateString" Moment.dateText, showMethod "toTimeString" Moment.timeText,
    showMethod "toLocaleString" fun moment => moment.localDate ++ ", " ++ moment.localTime,
    showMethod "toLocaleDateString" Moment.localDate, showMethod "toLocaleTimeString" Moment.localTime,
    showMethod "toUTCString" Moment.universal, showMethod "toGMTString" Moment.universal,
    method "getTimezoneOffset" 0 fun call => do
      let (_, time) ← dateOf call.this
      if time.isNaN then return .number Number.nan else return .integer 0,
    method "setTime" 1 fun call => do
      let (ref, _) ← dateOf call.this
      let time := clipTime (← call.first.toFloat)
      setKind ref (.date time)
      return .ofFloat time,
    method "getYear" 0 fun call => do
      let (_, time) ← dateOf call.this
      if time.isNaN then return .number Number.nan
      else return .ofInt ((Moment.ofMs (Number.truncate time)).year - 1900),
    method "toJSON" 1 fun call => do
      let object := Value.object (← call.this.toObject)
      let value ← object.toPrimitive .number
      match Value.float? value with
      | some x => if !x.isFinite then return .null else callIso object
      | none => callIso object] ++
  fieldMethods "FullYear" (·.year) ++ fieldMethods "Month" (·.month) ++ fieldMethods "Date" (·.day) ++
  fieldMethods "Hours" (·.hour) ++ fieldMethods "Minutes" (·.minute) ++
  fieldMethods "Seconds" (·.second) ++ fieldMethods "Milliseconds" (·.ms) ++
  fieldMethods "Day" (·.weekday) ++ setterMethods "Milliseconds" 6 1 ++ setterMethods "Seconds" 5 2 ++
  setterMethods "Minutes" 4 3 ++ setterMethods "Hours" 3 4 ++ setterMethods "Date" 2 1 ++
  setterMethods "Month" 1 2 ++ setterMethods "FullYear" 0 3

/-- A date is a text, unless a number is asked for. -/
def dateToPrimitive : Method :=
  method "[Symbol.toPrimitive]" 1 fun call => do
    match call.this with
    | .object _ =>
      let first ← match call.first with
        | .text hint =>
          if hint == Units.ofString "number" then pure Hint.number
          else if hint == Units.ofString "string" || hint == Units.ofString "default" then pure Hint.text
          else throwType "invalid hint"
        | _ => throwType "invalid hint"
      let (first, second) := match first with
        | .text => (toStringKey, valueOfKey)
        | _ => (valueOfKey, toStringKey)
      match ← primitiveUnder call.this first with
      | some found => return found
      | none =>
        match ← primitiveUnder call.this second with
        | some found => return found
        | none => throwType "toPrimitive"
    | _ => throwType "not an object"

end ScriptSandbox.Script.Library
