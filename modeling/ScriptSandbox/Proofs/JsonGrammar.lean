import Mathlib
import ScriptSandbox.Json.Reader
import ScriptSandbox.Proofs.DoubleRange
import ScriptSandbox.Text.Units

/-!
What a JSON text is, apart from any reader: which characters spell a text, a number, a value. An object is
known with its members as they are written. A text is spelled by letters whose UTF-16 units are its own, so
that escaped surrogates stand in pairs; a number is a literal for an integer of 64 bits, or one of which the digits
that fit 64 bits and the power of ten are rounded to doubles with a product in the range.
-/

namespace ScriptSandbox.Json

def Blanks (text : List Char) : Prop := ∀ c ∈ text, c ∈ [' ', '\t', '\n', '\r']

/-! ### Texts -/

inductive Letter where
  | char (c : Char)
  | unit (number : UInt16)

def shortEscapes : List (Char × Char) :=
  [('"', '"'), ('\\', '\\'), ('/', '/'), ('b', '\x08'), ('f', '\x0c'), ('n', '\n'), ('r', '\r'), ('t', '\t')]

def hexAlphabets : List (List Char) :=
  [['0', '1', '2', '3', '4', '5', '6', '7', '8', '9', 'a', 'b', 'c', 'd', 'e', 'f'],
    ['0', '1', '2', '3', '4', '5', '6', '7', '8', '9', 'A', 'B', 'C', 'D', 'E', 'F']]

def HexDigit (c : Char) (n : Nat) : Prop := ∃ alphabet ∈ hexAlphabets, alphabet[n]? = some c

instance (c : Char) (n : Nat) : Decidable (HexDigit c n) :=
  inferInstanceAs (Decidable (∃ alphabet ∈ hexAlphabets, alphabet[n]? = some c))

namespace Letter

def units : Letter → List UInt16
  | .char c => Units.ofCode c.toNat
  | .unit number => [number]

inductive Spells : Letter → List Char → Prop
  | plain (c : Char) (printable : 0x20 ≤ c.toNat) (notQuote : c ≠ '"') (notSlash : c ≠ '\\') : Spells (.char c) [c]
  | short (c mark : Char) (escape : (mark, c) ∈ shortEscapes) : Spells (.char c) ['\\', mark]
  | long (number : UInt16) (a b c d : Char) (k l m n : Nat) (first : HexDigit a k) (second : HexDigit b l)
      (third : HexDigit c m) (fourth : HexDigit d n) (whole : number.toNat = ((k * 16 + l) * 16 + m) * 16 + n) :
      Spells (.unit number) ['\\', 'u', a, b, c, d]

end Letter

def unitsOf (chars : List Char) : List UInt16 := chars.flatMap fun c => Units.ofCode c.toNat

def SpellsChars (chars text : List Char) : Prop :=
  ∃ letters pieces, List.Forall₂ Letter.Spells letters pieces ∧ unitsOf chars = letters.flatMap Letter.units ∧
    text = pieces.flatten

def SpellsText (value : String) (text : List Char) : Prop :=
  ∃ inside, SpellsChars value.toList inside ∧ text = '"' :: (inside ++ ['"'])

/-! ### Numbers -/

structure Numeral where
  negative : Bool
  whole : List Char
  fraction : Option (List Char)
  exponent : Option Int

def Digits (text : List Char) : Prop := text ≠ [] ∧ ∀ c ∈ text, c.isDigit = true

inductive SpellsFraction : Option (List Char) → List Char → Prop
  | none : SpellsFraction none []
  | some (digits : List Char) (proper : Digits digits) : SpellsFraction (some digits) ('.' :: digits)

inductive SpellsExponent : Option Int → List Char → Prop
  | none : SpellsExponent none []
  | unsigned (mark : Char) (digits : List Char) (marked : mark ∈ ['e', 'E']) (proper : Digits digits) :
      SpellsExponent (some (Decimal.ofDigits digits)) (mark :: digits)
  | plus (mark : Char) (digits : List Char) (marked : mark ∈ ['e', 'E']) (proper : Digits digits) :
      SpellsExponent (some (Decimal.ofDigits digits)) (mark :: '+' :: digits)
  | minus (mark : Char) (digits : List Char) (marked : mark ∈ ['e', 'E']) (proper : Digits digits) :
      SpellsExponent (some (-(Decimal.ofDigits digits : Int))) (mark :: '-' :: digits)

namespace Numeral

inductive Spells (numeral : Numeral) : List Char → Prop
  | parts (fraction exponent : List Char) (proper : Digits numeral.whole)
      (zero : numeral.whole.head? = some '0' → numeral.whole = ['0'])
      (before : SpellsFraction numeral.fraction fraction) (behind : SpellsExponent numeral.exponent exponent) :
      Spells numeral ((if numeral.negative then ['-'] else []) ++ numeral.whole ++ fraction ++ exponent)

def coefficient (numeral : Numeral) : Nat := Decimal.ofDigits (numeral.whole ++ numeral.fraction.getD [])

/-- The digits that a double is made of are as many in front as write a number of 64 bits, of those before the point
and then of those behind it. With them comes the place of the last one. -/
inductive Kept (numeral : Numeral) : Nat → Int → Prop
  | parts (whole lost fraction left : List Char) (before : numeral.whole = whole ++ lost)
      (behind : numeral.fraction.getD [] = fraction ++ left) (fits : Decimal.ofDigits (whole ++ fraction) < 2 ^ 64)
      (full : ∀ digit ∈ lost.head?, 2 ^ 64 ≤ Decimal.ofDigits (whole ++ [digit]))
      (full' : ∀ digit ∈ left.head?, 2 ^ 64 ≤ Decimal.ofDigits (whole ++ fraction ++ [digit])) :
      Kept numeral (Decimal.ofDigits (whole ++ fraction))
        (numeral.exponent.getD 0 + lost.length - fraction.length)

/-- The digits and the power of ten, each rounded to a double, have a product in the range of doubles; and the exponent
that is written has 31 bits at most, unless all kept digits are zeros. -/
structure InRange (numeral : Numeral) (significand : Nat) (place : Int) : Prop where
  product : Double.rounded significand * Double.rounded (10 ^ place.toNat) < Double.limit
  exponent : significand ≠ 0 → numeral.exponent.getD 0 < 2 ^ 31

def double (numeral : Numeral) (significand : Nat) (place : Int) : Float :=
  let size := (Decimal.scaled? significand place).getD 0
  if numeral.negative then -size else size

/-- A number without point and exponent that is an integer of 64 bits. Zero with a minus sign is none. -/
structure Integer (numeral : Numeral) (n : Int) : Prop where
  whole : numeral.fraction = none ∧ numeral.exponent = none
  same : n = if numeral.negative then -(numeral.coefficient : Int) else numeral.coefficient
  notMinusZero : numeral.negative = true → n ≠ 0
  least : -0x8000000000000000 ≤ n
  greatest : n < 0x10000000000000000

end Numeral

def SpellsInteger (n : Int) (text : List Char) : Prop :=
  ∃ numeral : Numeral, numeral.Spells text ∧ numeral.Integer n

def SpellsFloat (x : Float) (text : List Char) : Prop :=
  ∃ numeral : Numeral, ∃ significand place, numeral.Spells text ∧ (∀ n, ¬ numeral.Integer n) ∧
    numeral.Kept significand place ∧ numeral.InRange significand place ∧ x = numeral.double significand place

/-! ### Values -/

def Spaced (part : α → List Char → Prop) (item : α) (text : List Char) : Prop :=
  ∃ before inside after, Blanks before ∧ part item inside ∧ Blanks after ∧ text = before ++ inside ++ after

inductive Listed (part : α → List Char → Prop) : List α → List Char → Prop
  | last (item : α) (text : List Char) (spelled : Spaced part item text) : Listed part [item] text
  | more (item : α) (rest : List α) (first later : List Char) (spelled : Spaced part item first)
      (others : Listed part rest later) : Listed part (item :: rest) (first ++ ',' :: later)

inductive Enclosed (opening closing : Char) (part : α → List Char → Prop) : List α → List Char → Prop
  | none (blanks : List Char) (blank : Blanks blanks) :
    Enclosed opening closing part [] (opening :: (blanks ++ [closing]))
  | some (items : List α) (inside : List Char) (listed : Listed part items inside) :
      Enclosed opening closing part items (opening :: (inside ++ [closing]))

def SpellsMember (value : Json → List Char → Prop) (member : String × Json) (text : List Char) : Prop :=
  ∃ key before after item, SpellsText member.1 key ∧ Blanks before ∧ Blanks after ∧ value member.2 item ∧
    text = key ++ before ++ ':' :: (after ++ item)

def Spells : Nat → Json → List Char → Prop
  | _, .null, chars => chars = ['n', 'u', 'l', 'l']
  | _, .boolean true, chars => chars = ['t', 'r', 'u', 'e']
  | _, .boolean false, chars => chars = ['f', 'a', 'l', 's', 'e']
  | _, .integer n, chars => SpellsInteger n chars
  | _, .float x, chars => SpellsFloat x chars
  | _, .text value, chars => SpellsText value chars
  | 0, .array _, _ => False
  | depth + 1, .array items, chars => Enclosed '[' ']' (Spells depth) items chars
  | 0, .object _, _ => False
  | depth + 1, .object members, chars => Enclosed '\x7b' '\x7d' (SpellsMember (Spells depth)) members chars

def Document (value : Json) (text : String) : Prop := Spaced (Spells maxDepth) value text.toList

end ScriptSandbox.Json
