import ScriptSandbox.Text.Units

/-!
Decoding bytes that are mostly UTF-8: every longest stretch that begins a character and cannot be
completed becomes one replacement character, and so does every byte that begins none. The decoder
is an automaton, so decoding two byte sequences one after the other can be compared with decoding
their concatenation: they agree wherever the first one ends between characters.
-/

namespace ScriptSandbox.Lossy

/-- Where the decoder stands: between characters, or inside one that still wants bytes. -/
inductive Progress where
  | ready
  /-- So many bytes are missing, the next of which lies in a range; `bits` holds the value so far. -/
  | within (missing : Nat) (least greatest : UInt8) (bits : Nat)
  deriving Repr, DecidableEq

def replacement : Char := '\uFFFD'

def start (byte : UInt8) : List Char × Progress :=
  if byte < 0x80 then ([Char.ofNat byte.toNat], .ready)
  else if byte < 0xC2 then ([replacement], .ready)
  else if byte < 0xE0 then ([], .within 1 0x80 0xBF (byte.toNat - 0xC0))
  else if byte < 0xF0 then
    ([], .within 2 (if byte = 0xE0 then 0xA0 else 0x80) (if byte = 0xED then 0x9F else 0xBF)
      (byte.toNat - 0xE0))
  else if byte < 0xF5 then
    ([], .within 3 (if byte = 0xF0 then 0x90 else 0x80) (if byte = 0xF4 then 0x8F else 0xBF)
      (byte.toNat - 0xF0))
  else ([replacement], .ready)

def Progress.feed : Progress → UInt8 → List Char × Progress
  | .ready, byte => start byte
  | .within missing least greatest bits, byte =>
    if least ≤ byte ∧ byte ≤ greatest then
      let bits := bits * 0x40 + (byte.toNat - 0x80)
      if missing ≤ 1 then ([Char.ofNat bits], .ready)
      else ([], .within (missing - 1) 0x80 0xBF bits)
    else
      let (settled, progress) := start byte
      (replacement :: settled, progress)

def Progress.finish : Progress → List Char
  | .ready => []
  | .within .. => [replacement]

def step (state : String × Progress) (byte : UInt8) : String × Progress :=
  let (settled, progress) := state.2.feed byte
  (settled.foldl String.push state.1, progress)

/-- The text of bytes, with a replacement character for every stretch that is not UTF-8. -/
def decode (bytes : Array UInt8) : String :=
  let (text, progress) := bytes.foldl step ("", .ready)
  progress.finish.foldl String.push text

def strict? (bytes : Array UInt8) : Option String :=
  String.fromUTF8? ⟨bytes⟩

end ScriptSandbox.Lossy

namespace ScriptSandbox.Units

def toText (text : Units) : String :=
  Lossy.decode text.toBytes

end ScriptSandbox.Units
