import ScriptSandbox.Decimal.Layout
import ScriptSandbox.Json.Basic
import ScriptSandbox.Text.Quoted

/-!
Writing JSON, on one line or spread over indented lines. Both forms write the same tokens.
-/

namespace ScriptSandbox.Json

/-- Numbers stand without an exponent from `0.00001` up to `10^16`, and whole ones end with `.0`. -/
def floatLayout : Decimal.Layout :=
  { least := -5, bound := 16, wholeSuffix := ".0", positiveSign := "+", signedZero := true
    nan := "null", infinity := "null" }

/-- The text of a number; numbers that are not finite have none and become `null`. -/
def floatText (x : Float) : String :=
  if x.isFinite then floatLayout.write x else "null"

def charText (c : Char) : List Char :=
  match c with
  | '"' => ['\\', '"']
  | '\\' => ['\\', '\\']
  | '\x08' => ['\\', 'b']
  | '\x0c' => ['\\', 'f']
  | '\n' => ['\\', 'n']
  | '\r' => ['\\', 'r']
  | '\t' => ['\\', 't']
  | c => if c.val < 0x20 then ['\\', 'u'] ++ (Text.hexPadded 4 c.toNat).toList else [c]

def quotedText (text : String) : List Char :=
  '"' :: (text.toList.flatMap charText ++ ['"'])

mutual

def compactChars : Json → List Char
  | .null => "null".toList
  | .boolean true => "true".toList
  | .boolean false => "false".toList
  | .integer value => (toString value).toList
  | .float value => (floatText value).toList
  | .text value => quotedText value
  | .array items => '[' :: (compactItems items ++ [']'])
  | .object entries => '\x7b' :: (compactEntries entries ++ ['\x7d'])

def compactItems : List Json → List Char
  | [] => []
  | [item] => compactChars item
  | item :: next :: rest => compactChars item ++ ',' :: compactItems (next :: rest)

def compactEntries : List (String × Json) → List Char
  | [] => []
  | [(key, value)] => quotedText key ++ ':' :: compactChars value
  | (key, value) :: next :: rest =>
    quotedText key ++ ':' :: (compactChars value ++ ',' :: compactEntries (next :: rest))

end

def compact (value : Json) : String :=
  String.ofList value.compactChars

def newLine (depth : Nat) : List Char :=
  '\n' :: List.replicate (2 * depth) ' '

mutual

def prettyChars (depth : Nat) : Json → List Char
  | .array [] => ['[', ']']
  | .array (item :: rest) =>
    '[' :: (prettyItems (depth + 1) (item :: rest) ++ newLine depth ++ [']'])
  | .object [] => ['\x7b', '\x7d']
  | .object (entry :: rest) =>
    '\x7b' :: (prettyEntries (depth + 1) (entry :: rest) ++ newLine depth ++ ['\x7d'])
  | .null => "null".toList
  | .boolean true => "true".toList
  | .boolean false => "false".toList
  | .integer value => (toString value).toList
  | .float value => (floatText value).toList
  | .text value => quotedText value

def prettyItems (depth : Nat) : List Json → List Char
  | [] => []
  | [item] => newLine depth ++ prettyChars depth item
  | item :: next :: rest =>
    newLine depth ++ prettyChars depth item ++ ',' :: prettyItems depth (next :: rest)

def prettyEntries (depth : Nat) : List (String × Json) → List Char
  | [] => []
  | [(key, value)] => newLine depth ++ quotedText key ++ [':', ' '] ++ prettyChars depth value
  | (key, value) :: next :: rest =>
    newLine depth ++ quotedText key ++ [':', ' '] ++ prettyChars depth value ++
      ',' :: prettyEntries depth (next :: rest)

end

def pretty (value : Json) : String :=
  String.ofList (value.prettyChars 0)

end ScriptSandbox.Json
