import ScriptSandbox.Text.Printable

/-!
Texts between quotation marks, as diagnostics show them: the quotation mark and the backslash are
escaped, the usual control characters have their short names, and every other character that would
not show is written as its code point.
-/

namespace ScriptSandbox.Text

def hex (n : Nat) : String :=
  String.ofList (Nat.toDigits 16 n)

def hexPadded (width n : Nat) : String :=
  let digits := Nat.toDigits 16 n
  String.ofList (List.replicate (width - digits.length) '0' ++ digits)

def quotedChar (c : Char) : String :=
  match c with
  | '"' => "\\\""
  | '\\' => "\\\\"
  | '\n' => "\\n"
  | '\r' => "\\r"
  | '\t' => "\\t"
  | '\x00' => "\\0"
  | c => if isPrintable c then String.singleton c else "\\u\x7b" ++ hex c.toNat ++ "\x7d"

def quoted (text : String) : String :=
  text.foldl (fun out c => out ++ quotedChar c) "\"" ++ "\""

end ScriptSandbox.Text
