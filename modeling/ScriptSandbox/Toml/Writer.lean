import ScriptSandbox.Text.Quoted
import ScriptSandbox.Toml.Basic

/-!
Writing TOML. A text takes the first of these forms that can hold it without escapes: a basic text, a
literal text, a basic text of several lines, a literal text of several lines; a text that needs escapes
is basic. An array of more than one item has a line for each.
-/

namespace ScriptSandbox.Toml

structure TextTraits where
  /-- It has a control character that only an escape can write. -/
  needsCodes : Bool
  backslash : Bool
  newline : Bool
  /-- The longest runs of the two quotation marks. -/
  singleRun : Nat
  doubleRun : Nat

def longestRun (mark : Char) (text : List Char) : Nat :=
  (text.foldl (fun (longest, run) c =>
    if c = mark then (max longest (run + 1), run + 1) else (longest, 0)) (0, 0)).1

def TextTraits.of (text : List Char) : TextTraits :=
  { needsCodes := text.any fun c => (c.val < 0x20 && c != '\t' && c != '\n') || c.val == 0x7F
    backslash := text.contains '\\'
    newline := text.contains '\n'
    singleRun := longestRun '\'' text
    doubleRun := longestRun '"' text }

/-- One character of a basic text; of several lines, a line break stands for itself. -/
def basicChar (severalLines : Bool) (c : Char) : List Char :=
  match c with
  | '\x08' => ['\\', 'b']
  | '\t' => ['\\', 't']
  | '\n' => if severalLines then ['\n'] else ['\\', 'n']
  | '\x0c' => ['\\', 'f']
  | '\r' => ['\\', 'r']
  | '\\' => ['\\', '\\']
  | c => if c.val < 0x20 || c.val == 0x7F then
      ['\\', 'u'] ++ (Text.hexPadded 4 c.toNat).toList.map Char.toUpper
    else [c]

/-- The inside of a basic text; at most so many quotation marks in a row stand unescaped. -/
def basicBody (severalLines : Bool) (allowed : Nat) : Nat → List Char → List Char
  | _, [] => []
  | run, c :: rest =>
    if c = '"' then
      if run < allowed then '"' :: basicBody severalLines allowed (run + 1) rest
      else '\\' :: '"' :: basicBody severalLines allowed 0 rest
    else basicChar severalLines c ++ basicBody severalLines allowed 0 rest

/-- A text in the first form that suits it. -/
def textChars (text : List Char) : List Char :=
  let traits := TextTraits.of text
  let opening := if traits.newline then ['\n'] else []
  if !traits.needsCodes && !traits.backslash && traits.doubleRun == 0 && !traits.newline then
    '"' :: (basicBody false 0 0 text ++ ['"'])
  else if !traits.needsCodes && traits.singleRun == 0 && !traits.newline then
    '\'' :: (text ++ ['\''])
  else if !traits.needsCodes && !traits.backslash && traits.doubleRun ≤ 2 then
    ['"', '"', '"'] ++ opening ++ basicBody true 2 0 text ++ ['"', '"', '"']
  else if !traits.needsCodes && traits.singleRun ≤ 2 then
    ['\'', '\'', '\''] ++ opening ++ text ++ ['\'', '\'', '\'']
  else if traits.newline then
    ['"', '"', '"'] ++ opening ++ basicBody true 2 0 text ++ ['"', '"', '"']
  else '"' :: (basicBody false 0 0 text ++ ['"'])

def writeText (text : String) : String :=
  String.ofList (textChars text.toList)

/-- An array of texts: one line for at most one item, else a line for each. -/
def writeTexts (texts : List String) : String :=
  match texts with
  | [] => "[]"
  | [single] => "[" ++ writeText single ++ "]"
  | texts => "[\n" ++ String.join (texts.map fun item => "    " ++ writeText item ++ ",\n") ++ "]"

end ScriptSandbox.Toml
