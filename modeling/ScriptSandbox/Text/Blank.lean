/-!
White space, as Unicode's `White_Space` property has it, and trimming by it.
-/

namespace ScriptSandbox.Text

def isBlank (c : Char) : Bool :=
  let code := c.val
  (0x09 ≤ code && code ≤ 0x0D) || code == 0x20 || code == 0x85 || code == 0xA0 || code == 0x1680 ||
  (0x2000 ≤ code && code ≤ 0x200A) || code == 0x2028 || code == 0x2029 || code == 0x202F ||
  code == 0x205F || code == 0x3000

def isControl (c : Char) : Bool :=
  c.val < 0x20 || (0x7F ≤ c.val && c.val < 0xA0)

def trimEnd (text : String) : String :=
  String.ofList (text.toList.reverse.dropWhile isBlank).reverse

def trim (text : String) : String :=
  trimEnd (String.ofList (text.toList.dropWhile isBlank))

def lower (text : String) : String := text.map Char.toLower

def upper (text : String) : String := text.map Char.toUpper

end ScriptSandbox.Text
