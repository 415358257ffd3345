import ScriptSandbox.Decimal.Reading
import ScriptSandbox.Json.Reader
import ScriptSandbox.Toml.Basic

/-!
Reading TOML 1.0. A document is a list of statements: headers of tables, headers of arrays of tables,
and keys with values. `Toml.parse?` reads the statements and then builds the table they describe, where
no table is defined twice and no value is extended.
-/

namespace ScriptSandbox.Toml

abbrev Reading (α : Type) := List Char → Option (α × List Char)

def maxDepth : Nat := 80

def isBlank (c : Char) : Bool := c == ' ' || c == '\t'

def skipBlanks (input : List Char) : List Char := input.dropWhile isBlank

def isPlain (c : Char) : Bool := c == '\t' || (0x20 ≤ c.val && c.val != 0x7F)

def newline? : List Char → Option (List Char)
  | '\n' :: rest => some rest
  | '\r' :: '\n' :: rest => some rest
  | _ => none

def skipComment (input : List Char) : List Char :=
  match input with
  | '#' :: rest => rest.dropWhile isPlain
  | _ => input

/-- Skips blanks, comments and line breaks; a comment must end with its line. -/
def skipSpace : Nat → List Char → Option (List Char)
  | 0, input => some input
  | steps + 1, input =>
    let rest := skipComment (skipBlanks input)
    match newline? rest with
    | some rest => skipSpace steps rest
    | none => if (skipBlanks input).head? = some '#' then (if rest.isEmpty then some [] else none)
      else some rest

def endOfLine (input : List Char) : Option (List Char) :=
  let rest := skipComment (skipBlanks input)
  match newline? rest with
  | some rest => some rest
  | none => if rest.isEmpty then some [] else none

def escape? : List Char → Option (Char × List Char)
  | 'u' :: a :: b :: c :: d :: rest => do
    let code ← Json.hexUnit? a b c d
    if code.isValidChar then some (Char.ofNat code, rest) else none
  | 'U' :: a :: b :: c :: d :: e :: f :: g :: h :: rest => do
    let code := (← Json.hexUnit? a b c d) * 0x10000 + (← Json.hexUnit? e f g h)
    if code.isValidChar then some (Char.ofNat code, rest) else none
  | 'b' :: rest => some ('\x08', rest)
  | 't' :: rest => some ('\t', rest)
  | 'n' :: rest => some ('\n', rest)
  | 'f' :: rest => some ('\x0c', rest)
  | 'r' :: rest => some ('\r', rest)
  | '"' :: rest => some ('"', rest)
  | '\\' :: rest => some ('\\', rest)
  | _ => none

def basicText : Nat → List Char → Reading String
  | 0, _, _ => none
  | _ + 1, done, '"' :: rest => some (String.ofList done.reverse, rest)
  | steps + 1, done, '\\' :: rest =>
    match escape? rest with
    | some (c, rest) => basicText steps (c :: done) rest
    | none => none
  | steps + 1, done, c :: rest => if isPlain c then basicText steps (c :: done) rest else none
  | _ + 1, _, [] => none

def literalText (done : List Char) : Reading String
  | '\'' :: rest => some (String.ofList done.reverse, rest)
  | c :: rest => if isPlain c then literalText (c :: done) rest else none
  | [] => none

/-- A line break after the opening marks is not part of the text. -/
def skipFirstBreak (input : List Char) : List Char := (newline? input).getD input

/-- Blanks and line breaks after a backslash at the end of a line; at least one line must break. -/
def skipJoined : Nat → Bool → List Char → Option (List Char)
  | 0, _, _ => none
  | steps + 1, broken, input =>
    let rest := skipBlanks input
    match newline? rest with
    | some rest => skipJoined steps true rest
    | none => if broken then some rest else none

/-- The rest of a text of several lines that ends with three marks; up to two more of them belong to
the text. Escapes are read in basic texts only. -/
def longText (mark : Char) (basic : Bool) : Nat → List Char → Reading String
  | 0, _, _ => none
  | steps + 1, done, input =>
    match input with
    | [] => none
    | c :: rest =>
      if c = mark then
        let run := 1 + (rest.takeWhile (· == mark)).length
        if run < 3 then longText mark basic steps (c :: done) rest
        else if run ≤ 5 then
          some (String.ofList (List.replicate (run - 3) mark ++ done).reverse, input.drop run)
        else none
      else if c = '\\' && basic then
        match escape? rest with
        | some (c, rest) => longText mark basic steps (c :: done) rest
        | none =>
          match skipJoined rest.length.succ false rest with
          | some rest => longText mark basic steps done rest
          | none => none
      else match newline? input with
        | some rest => longText mark basic steps ('\n' :: done) rest
        | none => if isPlain c then longText mark basic steps (c :: done) rest else none

def shortText : Reading String
  | '"' :: rest => basicText rest.length.succ [] rest
  | '\'' :: rest => literalText [] rest
  | _ => none

def anyText : Reading String
  | '"' :: '"' :: '"' :: rest => longText '"' true rest.length.succ [] (skipFirstBreak rest)
  | '\'' :: '\'' :: '\'' :: rest => longText '\'' false rest.length.succ [] (skipFirstBreak rest)
  | input => shortText input

def isBareKey (c : Char) : Bool :=
  c.isAlphanum || c == '-' || c == '_'

def simpleKey (input : List Char) : Option (String × List Char) :=
  match input with
  | '"' :: _ => shortText input
  | '\'' :: _ => shortText input
  | _ =>
    let name := input.takeWhile isBareKey
    if name.isEmpty then none else some (String.ofList name, input.dropWhile isBareKey)

def dottedKey : Nat → Reading (List String)
  | 0, _ => none
  | steps + 1, input =>
    match simpleKey (skipBlanks input) with
    | none => none
    | some (name, rest) =>
      match skipBlanks rest with
      | '.' :: rest =>
        match dottedKey steps rest with
        | none => none
        | some (more, rest) => some (name :: more, rest)
      | _ => some ([name], skipBlanks rest)

def groupedDigits (isDigit : Char → Bool) : List Char → Option (List Char)
  | [] => none
  | [c] => if isDigit c then some [c] else none
  | c :: '_' :: rest =>
    if isDigit c then (groupedDigits isDigit rest).map (c :: ·) else none
  | c :: rest => if isDigit c then (groupedDigits isDigit rest).map (c :: ·) else none

def fitsWord (n : Int) : Bool := -0x8000000000000000 ≤ n && n < 0x8000000000000000

def basedInteger? (base : Nat) (digits : List Char) : Option Toml := do
  let digits ← groupedDigits (fun c => (Json.hexValue? c).any (· < base)) digits
  let n : Nat := digits.foldl (fun n c => n * base + (Json.hexValue? c).getD 0) 0
  if fitsWord n then some (.integer n) else none

/-- Decimal digits of a whole number: more than one do not begin with zero. -/
def wholeDigits? (text : List Char) : Option (List Char) := do
  let digits ← groupedDigits Char.isDigit text
  if digits.head? = some '0' ∧ 1 < digits.length then none else some digits

def unsigned? (text : List Char) : Option (Sum Nat Float) :=
  if text = "inf".toList then some (.inr (1.0 / 0.0))
  else if text = "nan".toList then some (.inr (0.0 / 0.0))
  else
    let isExponent (c : Char) := c == 'e' || c == 'E'
    let mantissa := text.takeWhile fun c => !isExponent c
    let tail := text.dropWhile fun c => !isExponent c
    let whole := mantissa.takeWhile (· != '.')
    let fraction := mantissa.dropWhile (· != '.')
    match wholeDigits? whole with
    | none => none
    | some whole =>
      if fraction.isEmpty && tail.isEmpty then some (.inl (Decimal.ofDigits whole))
      else
        let fractionDigits := if fraction.isEmpty then some []
          else groupedDigits Char.isDigit (fraction.drop 1)
        let exponent : Option Int := match tail.drop 1 with
          | [] => if tail.isEmpty then some 0 else none
          | '-' :: rest => (groupedDigits Char.isDigit rest).map fun ds => -(Decimal.ofDigits ds : Int)
          | '+' :: rest => (groupedDigits Char.isDigit rest).map fun ds => (Decimal.ofDigits ds : Int)
          | rest => (groupedDigits Char.isDigit rest).map fun ds => (Decimal.ofDigits ds : Int)
        match fractionDigits, exponent with
        | some digits, some exponent =>
          let x := Decimal.ofParts whole digits exponent
          if x.isFinite then some (.inr x) else none
        | _, _ => none

def number? (text : List Char) : Option Toml :=
  match text with
  | '0' :: 'x' :: digits => basedInteger? 16 digits
  | '0' :: 'o' :: digits => basedInteger? 8 digits
  | '0' :: 'b' :: digits => basedInteger? 2 digits
  | _ =>
    let (negative, rest) := match text with
      | '-' :: rest => (true, rest)
      | '+' :: rest => (false, rest)
      | _ => (false, text)
    match unsigned? rest with
    | none => none
    | some (.inl size) =>
      let n : Int := if negative then -(size : Int) else size
      if fitsWord n then some (.integer n) else none
    | some (.inr x) => some (.float (if negative then -x else x))

def twoDigits (least greatest : Nat) : List Char → Option (List Char)
  | a :: b :: rest =>
    if a.isDigit && b.isDigit then
      let n := Decimal.ofDigits [a, b]
      if least ≤ n && n ≤ greatest then some rest else none
    else none
  | _ => none

def date? (input : List Char) : Option (List Char) :=
  if (input.take 4).length = 4 && (input.take 4).all Char.isDigit then
    match input.drop 4 with
    | '-' :: rest =>
      match twoDigits 1 12 rest with
      | some ('-' :: rest) => twoDigits 1 31 rest
      | _ => none
    | _ => none
  else none

def time? (input : List Char) : Option (List Char) :=
  match twoDigits 0 23 input with
  | some (':' :: rest) =>
    match twoDigits 0 59 rest with
    | some (':' :: rest) =>
      match twoDigits 0 60 rest with
      | some ('.' :: rest) =>
        if (rest.takeWhile Char.isDigit).isEmpty then none else some (rest.dropWhile Char.isDigit)
      | rest => rest
    | _ => none
  | _ => none

/-- The rest after an offset from universal time; there need be none. -/
def offset? (input : List Char) : Option (List Char) :=
  let shift (rest : List Char) := match twoDigits 0 23 rest with
    | some (':' :: rest) => twoDigits 0 59 rest
    | _ => none
  match input with
  | 'Z' :: rest => some rest
  | 'z' :: rest => some rest
  | '+' :: rest => shift rest
  | '-' :: rest => shift rest
  | _ => some input

def datetime? (input : List Char) : Option (Toml × List Char) :=
  match date? input with
  | some rest =>
    let timed := match rest with
      | 'T' :: tail => some tail
      | 't' :: tail => some tail
      | ' ' :: tail => if (time? tail).isSome then some tail else none
      | _ => none
    match timed with
    | none => some (.datetime, rest)
    | some tail =>
      match time? tail with
      | none => none
      | some rest => (offset? rest).map fun rest => (.datetime, rest)
  | none => (time? input).map fun rest => (.datetime, rest)

/-- Where a table comes from: it decides who may add to it. -/
inductive Origin where
  /-- Named on the way to another table's header. -/
  | passing
  | header
  /-- Named by a key with points. -/
  | dotted
  deriving DecidableEq

inductive Node where
  | leaf (value : Toml)
  | table (origin : Origin) (entries : List (String × Node))
  /-- An array of tables, the last one first. -/
  | tables (rows : List (List (String × Node)))
  deriving Inhabited

namespace Node

def put (key : String) (node : Node) : List (String × Node) → List (String × Node)
  | [] => [(key, node)]
  | (other, kept) :: rest =>
    if other = key then (key, node) :: rest else (other, kept) :: put key node rest

/-- Changes the table at the end of a path, and finds something there. Tables on the way are made as
needed; keys with points do not pass through tables that a header defined. -/
def descend (viaKey : Bool)
    (change : Origin → List (String × Node) → Option (α × List (String × Node))) :
    List String → Origin → List (String × Node) → Option (α × List (String × Node))
  | [], origin, entries => change origin entries
  | key :: path, _, entries =>
    let fresh : Origin := if viaKey then .dotted else .passing
    match (entries.lookup key).getD (.table fresh []) with
    | .leaf _ => none
    | .tables [] => none
    | .tables (row :: rows) =>
      (descend viaKey change path .header row).map fun (found, row) =>
        (found, put key (.tables (row :: rows)) entries)
    | .table origin inner =>
      if viaKey && origin == .header then none
      else (descend viaKey change path origin inner).map fun (found, inner) =>
        (found, put key (.table origin inner) entries)

def define (path : List String) (key : String) (value : Toml) (entries : List (String × Node)) :
    Option (List (String × Node)) :=
  (descend true (fun origin entries =>
    if (origin == .dotted) == path.isEmpty then none
    else if (entries.lookup key).isSome then none
    else some ((), entries ++ [(key, .leaf value)])) path .header entries).map (·.2)

mutual

def toToml : Node → Toml
  | .leaf value => value
  | .table _ entries => .table (entriesToToml entries)
  | .tables rows => .array (rowsToToml rows).reverse

def entriesToToml : List (String × Node) → List (String × Toml)
  | [] => []
  | (key, node) :: rest => (key, toToml node) :: entriesToToml rest

def rowsToToml : List (List (String × Node)) → List Toml
  | [] => []
  | row :: rest => .table (entriesToToml row) :: rowsToToml rest

end

end Node

def splitLast : List String → Option (List String × String)
  | [] => none
  | [key] => some ([], key)
  | key :: rest => (splitLast rest).map fun (path, last) => (key :: path, last)

/-- Items with commas between them, blanks, comments and line breaks around them, and possibly a comma
before the closing bracket. -/
def arrayItems (item : Reading Toml) : Nat → Reading (List Toml)
  | 0, _ => none
  | steps + 1, input =>
    match skipSpace input.length.succ input with
    | none => none
    | some (']' :: rest) => some ([], rest)
    | some input =>
      match item input with
      | none => none
      | some (first, rest) =>
        match skipSpace rest.length.succ rest with
        | some (',' :: rest) =>
          match arrayItems item steps rest with
          | none => none
          | some (more, rest) => some (first :: more, rest)
        | some (']' :: rest) => some ([first], rest)
        | _ => none

/-- The entries of an inline table, on one line and without a comma at the end. -/
def inlineEntries (item : Reading Toml) :
    Nat → List (String × Node) → Reading (List (String × Node))
  | 0, _, _ => none
  | steps + 1, done, input =>
    match dottedKey input.length.succ input with
    | some (key, '=' :: rest) =>
      match splitLast key, item (skipBlanks rest) with
      | some (path, last), some (value, rest) =>
        match Node.define path last value done with
        | none => none
        | some done =>
          match skipBlanks rest with
          | ',' :: rest => inlineEntries item steps done rest
          | '\x7d' :: rest => some (done, rest)
          | _ => none
      | _, _ => none
    | _ => none

def isNumberChar (c : Char) : Bool :=
  c.isAlphanum || c == '_' || c == '+' || c == '-' || c == '.'

def value : Nat → Reading Toml
  | depth, input =>
    match input with
    | '"' :: _ => (anyText input).map fun (written, rest) => (.text written, rest)
    | '\'' :: _ => (anyText input).map fun (written, rest) => (.text written, rest)
    | '[' :: rest =>
      match depth with
      | 0 => none
      | depth + 1 =>
        (arrayItems (value depth) rest.length.succ rest).map fun (items, rest) => (.array items, rest)
    | '\x7b' :: rest =>
      match depth with
      | 0 => none
      | depth + 1 =>
        match skipBlanks rest with
        | '\x7d' :: rest => some (.table [], rest)
        | rest =>
          (inlineEntries (value depth) rest.length.succ [] rest).map fun (entries, rest) =>
            (.table (Node.entriesToToml entries), rest)
    | 't' :: 'r' :: 'u' :: 'e' :: rest => some (.boolean true, rest)
    | 'f' :: 'a' :: 'l' :: 's' :: 'e' :: rest => some (.boolean false, rest)
    | _ =>
      match datetime? input with
      | some found => some found
      | none =>
        (number? (input.takeWhile isNumberChar)).map fun number =>
          (number, input.dropWhile isNumberChar)

inductive Statement where
  | table (path : List String)
  | row (path : List String)
  | entry (path : List String) (value : Toml)

def statement (input : List Char) : Option (Statement × List Char) :=
  match input with
  | '[' :: '[' :: rest =>
    match dottedKey rest.length.succ rest with
    | some (path, ']' :: ']' :: rest) => (endOfLine rest).map fun rest => (.row path, rest)
    | _ => none
  | '[' :: rest =>
    match dottedKey rest.length.succ rest with
    | some (path, ']' :: rest) => (endOfLine rest).map fun rest => (.table path, rest)
    | _ => none
  | _ =>
    match dottedKey input.length.succ input with
    | some (path, '=' :: rest) =>
      match value maxDepth (skipBlanks rest) with
      | some (found, rest) => (endOfLine rest).map fun rest => (.entry path found, rest)
      | none => none
    | _ => none

def statements : Nat → List Char → Option (List Statement)
  | 0, _ => none
  | steps + 1, input =>
    match skipSpace input.length.succ input with
    | none => none
    | some input =>
      if input.isEmpty then some []
      else
        match statement input with
        | none => none
        | some (first, rest) => (statements steps rest).map (first :: ·)

structure Section where
  path : List String
  isRow : Bool
  entries : List (String × Node)

def finish (root : List (String × Node)) (part : Section) : Option (List (String × Node)) :=
  match splitLast part.path with
  | none => some part.entries
  | some (path, key) =>
    (Node.descend false (fun _ entries =>
      if part.isRow then
        match entries.lookup key with
        | some (.tables rows) => some ((), Node.put key (.tables (part.entries :: rows)) entries)
        | none => some ((), entries ++ [(key, .tables [part.entries])])
        | _ => none
      else some ((), entries ++ [(key, .table .header part.entries)])) path .header root).map (·.2)

/-- Opens the table of a header: it must be new, or have been named only on the way to others. -/
def openTable (root : List (String × Node)) (path : List String) :
    Option (List (String × Node) × Section) := do
  let (parents, key) ← splitLast path
  let (inner, root) ← Node.descend false (fun _ entries =>
    match entries.lookup key with
    | none => some ([], entries)
    | some (.table .passing inner) => some (inner, entries.filter fun entry => entry.1 != key)
    | _ => none) parents .header root
  return (root, ⟨path, false, inner⟩)

def openRow (root : List (String × Node)) (path : List String) :
    Option (List (String × Node) × Section) := do
  let (parents, key) ← splitLast path
  let ((), root) ← Node.descend false (fun _ entries =>
    match entries.lookup key with
    | none => some ((), entries ++ [(key, .tables [])])
    | some (.tables _) => some ((), entries)
    | _ => none) parents .header root
  return (root, ⟨path, true, []⟩)

def build : List Statement → List (String × Node) → Section → Option (List (String × Node))
  | [], root, part => finish root part
  | .entry path value :: rest, root, part =>
    match splitLast path with
    | none => none
    | some (path, key) =>
      match Node.define path key value part.entries with
      | none => none
      | some entries => build rest root { part with entries }
  | .table path :: rest, root, part =>
    match (finish root part).bind (openTable · path) with
    | none => none
    | some (root, part) => build rest root part
  | .row path :: rest, root, part =>
    match (finish root part).bind (openRow · path) with
    | none => none
    | some (root, part) => build rest root part

def parse? (text : String) : Option (List (String × Toml)) := do
  let input := match text.toList with
    | '\uFEFF' :: rest => rest
    | input => input
  let found ← statements input.length.succ input
  let root ← build found [] ⟨[], false, []⟩
  return Node.entriesToToml root

end ScriptSandbox.Toml
