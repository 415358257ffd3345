import Mathlib
import ScriptSandbox.Proofs.Replacement

/-!
What a host is shown of a text in which surrogates may stand alone. A text comes apart into signs in one way only:
characters, with the pairs of surrogates that write one, and surrogates without a partner. The characters are shown
as they are, and a lone surrogate as three replacement characters. The decoder is between characters after every
sign. So texts may be decoded one by one or all together, and a high surrogate at the end of one text never finds
a partner at the start of the next.
-/

namespace ScriptSandbox

open Lossy

namespace Units

/-! ### Signs -/

/-- A part of a text: a character, or a surrogate without a partner. -/
inductive Sign where
  | character (c : Char)
  | lone (unit : UInt16)

namespace Sign

def units : Sign → List UInt16
  | character c => ofCode c.toNat
  | lone unit => [unit]

def code : Sign → Nat
  | character c => c.toNat
  | lone unit => unit.toNat

def shown : Sign → List Char
  | character c => [c]
  | lone _ => [replacement, replacement, replacement]

/-- Whether a sign may come before `rest`: a unit that is a surrogate stands alone, unless it is a high one and a
low one comes next. -/
def Stands (rest : List UInt16) : Sign → Prop
  | character _ => True
  | lone unit => isLow unit = true ∨ isHigh unit = true ∧ ∀ next, rest.head? = some next → isLow next = false

def ofCode (code : Nat) : Sign :=
  if 0xD800 ≤ code ∧ code ≤ 0xDFFF then lone (UInt16.ofNat code) else character (Char.ofNat code)

end Sign

inductive Reads : List UInt16 → List Sign → Prop
  | nil : Reads [] []
  | cons (sign : Sign) (rest : List UInt16) (signs : List Sign) (stands : sign.Stands rest)
    (reads : Reads rest signs) : Reads (sign.units ++ rest) (sign :: signs)

theorem isHigh_toNat (unit : UInt16) : isHigh unit = true ↔ 0xD800 ≤ unit.toNat ∧ unit.toNat ≤ 0xDBFF := by
  rw [← isHigh_iff unit.toNat unit.toNat_lt, UInt16.ofNat_toNat]

theorem isLow_toNat (unit : UInt16) : isLow unit = true ↔ 0xDC00 ≤ unit.toNat ∧ unit.toNat ≤ 0xDFFF := by
  rw [← isLow_iff unit.toNat unit.toNat_lt, UInt16.ofNat_toNat]

theorem Sign.surrogate_of_stands (unit : UInt16) (rest : List UInt16) (stands : (lone unit).Stands rest) :
    0xD800 ≤ unit.toNat ∧ unit.toNat ≤ 0xDFFF := by
  obtain low | ⟨high, -⟩ := stands
  · have bounds := (isLow_toNat unit).1 low
    omega
  · have bounds := (isHigh_toNat unit).1 high
    omega

theorem Sign.ofCode_code (sign : Sign) (rest : List UInt16) (stands : sign.Stands rest) :
    ofCode sign.code = sign := by
  cases sign with
  | character c =>
    have range := Text.toNat_cases c
    rw [ofCode, code, if_neg (by omega), Char.ofNat_toNat]
  | lone unit =>
    rw [ofCode, code, if_pos (surrogate_of_stands unit rest stands), UInt16.ofNat_toNat]

/-! ### Reading code points -/

def ended : Array Nat × Option UInt16 → Array Nat
  | (found, some high) => found.push high.toNat
  | (found, none) => found

theorem codes_eq (text : Units) : text.codes = ended (text.toList.foldl joinStep (#[], none)) := by
  rw [codes, ← Array.foldl_toList]
  rcases text.toList.foldl joinStep (#[], none) with ⟨found, _ | high⟩ <;> rfl

theorem joinStep_apart (found : Array Nat) (high unit : UInt16) (apart : isLow unit = false) :
    joinStep (found, some high) unit = joinStep (found.push high.toNat, none) unit := by
  rw [joinStep, apart, if_neg Bool.false_ne_true]
  rfl

theorem ended_high (found : Array Nat) (high : UInt16) (rest : List UInt16) (isHigh : isHigh high = true)
    (apart : ∀ next, rest.head? = some next → isLow next = false) :
    ended ((high :: rest).foldl joinStep (found, none)) =
      ended (rest.foldl joinStep (found.push high.toNat, none)) := by
  rw [List.foldl_cons, joinStep_high found high isHigh]
  cases rest with
  | nil => rfl
  | cons next rest => rw [List.foldl_cons, List.foldl_cons, joinStep_apart found high next (apart next rfl)]

theorem ended_reads (units : List UInt16) (signs : List Sign) (reads : Reads units signs) (found : Array Nat) :
    (ended (units.foldl joinStep (found, none))).toList = found.toList ++ signs.map Sign.code := by
  induction reads generalizing found with
  | nil => exact (List.append_nil _).symm
  | cons sign rest signs stands _ ih =>
    have next : ended ((sign.units ++ rest).foldl joinStep (found, none)) =
        ended (rest.foldl joinStep (found.push sign.code, none)) := by
      cases sign with
      | character c =>
        rw [Sign.units, List.foldl_append, joins_code c.toNat found (Text.toNat_cases c)]
        rfl
      | lone unit =>
        obtain low | ⟨high, apart⟩ := stands
        · have bounds := (isLow_toNat unit).1 low
          have single : isHigh unit = false := by
            rw [Bool.eq_false_iff]
            intro high
            have others := (isHigh_toNat unit).1 high
            omega
          rw [Sign.units, List.singleton_append, List.foldl_cons, joinStep_single found unit single]
          rfl
        · exact ended_high found unit rest high apart
    rw [next, ih, Array.toList_push, List.map_cons, List.append_assoc, List.singleton_append]

theorem codes_of_reads (text : Units) (signs : List Sign) (reads : Reads text.toList signs) :
    text.codes.toList = signs.map Sign.code := by
  rw [codes_eq, ended_reads _ signs reads]
  rfl

theorem ofCode_code_of_reads (units : List UInt16) (signs : List Sign) (reads : Reads units signs) :
    (signs.map Sign.code).map Sign.ofCode = signs := by
  induction reads with
  | nil => rfl
  | cons sign rest signs stands _ ih => rw [List.map_cons, List.map_cons, sign.ofCode_code rest stands, ih]

theorem Reads.unique (text : Units) (signs others : List Sign) (reads : Reads text.toList signs)
    (again : Reads text.toList others) : others = signs := by
  rw [← ofCode_code_of_reads _ signs reads, ← ofCode_code_of_reads _ others again, ← codes_of_reads text signs reads,
    ← codes_of_reads text others again]

theorem units_of_single (unit : UInt16) (high : isHigh unit = false) (low : isLow unit = false) :
    (Sign.character (Char.ofNat unit.toNat)).units = [unit] := by
  have small := unit.toNat_lt
  have notHigh : ¬ (0xD800 ≤ unit.toNat ∧ unit.toNat ≤ 0xDBFF) := fun bounds =>
    Bool.eq_false_iff.1 high ((isHigh_toNat unit).2 bounds)
  have notLow : ¬ (0xDC00 ≤ unit.toNat ∧ unit.toNat ≤ 0xDFFF) := fun bounds =>
    Bool.eq_false_iff.1 low ((isLow_toNat unit).2 bounds)
  have code : (Char.ofNat unit.toNat).toNat = unit.toNat := by
    rw [Char.toNat_ofNat, if_pos (by rw [Nat.isValidChar]; omega)]
  rw [Sign.units, code, Units.ofCode, if_pos small, Nat.toUInt16_eq, UInt16.ofNat_toNat]

theorem units_of_pair (first second : UInt16) (high : isHigh first = true) (low : isLow second = true) :
    (Sign.character (Char.ofNat (joined first second))).units = [first, second] := by
  have upper := (isHigh_toNat first).1 high
  have lower := (isLow_toNat second).1 low
  have whole : joined first second = 0x10000 + (first.toNat - 0xD800) * 0x400 + (second.toNat - 0xDC00) := rfl
  have code : (Char.ofNat (joined first second)).toNat = joined first second := by
    rw [Char.toNat_ofNat, if_pos (by rw [Nat.isValidChar]; omega)]
  have front : 0xD800 + (joined first second - 0x10000) / 0x400 = first.toNat := by omega
  have back : 0xDC00 + (joined first second - 0x10000) % 0x400 = second.toNat := by omega
  rw [Sign.units, code, Units.ofCode, if_neg (by omega), front, back, Nat.toUInt16_eq, Nat.toUInt16_eq,
    UInt16.ofNat_toNat, UInt16.ofNat_toNat]

theorem exists_reads (units : List UInt16) : ∃ signs, Reads units signs := by
  induction size : units.length using Nat.strongRecOn generalizing units with
  | ind size ih =>
    cases units with
    | nil => exact ⟨[], .nil⟩
    | cons first rest =>
      obtain ⟨signs, reads⟩ := ih rest.length (by rw [← size, List.length_cons]; omega) rest rfl
      by_cases low : isLow first = true
      · exact ⟨_, .cons (.lone first) rest signs (.inl low) reads⟩
      by_cases high : isHigh first = true
      · by_cases paired : ∃ second more, rest = second :: more ∧ isLow second = true
        · obtain ⟨second, more, rfl, partner⟩ := paired
          obtain ⟨signs, reads⟩ := ih more.length (by simp only [← size, List.length_cons]; omega) more rfl
          have reads := Reads.cons (.character (Char.ofNat (joined first second))) more signs trivial reads
          rw [units_of_pair first second high partner] at reads
          exact ⟨_, reads⟩
        · refine ⟨_, .cons (.lone first) rest signs (.inr ⟨high, fun next found => ?_⟩) reads⟩
          obtain ⟨more, same⟩ := List.head?_eq_some_iff.1 found
          exact Bool.eq_false_iff.2 fun partner => paired ⟨next, more, same, partner⟩
      · have reads := Reads.cons (.character (Char.ofNat first.toNat)) rest signs trivial reads
        rw [units_of_single first (Bool.eq_false_iff.2 high) (Bool.eq_false_iff.2 low)] at reads
        exact ⟨_, reads⟩

/-! ### Decoding -/

theorem start_continuation (n : Nat) (low : 0x80 ≤ n) (high : n ≤ 0xBF) :
    start (UInt8.ofNat n) = ([replacement], .ready) := by
  rw [start_ofNat n (by omega), if_neg (by omega), if_pos (by omega)]

/-- The three bytes of a surrogate are three replacement characters, and nothing is left of them. The second byte
is refused already: what the first one begins goes on with smaller ones. -/
theorem settle_surrogate (code : Nat) (range : 0xD800 ≤ code ∧ code ≤ 0xDFFF) :
    Progress.ready.settle (codeBytes code) = ([replacement, replacement, replacement], .ready) := by
  have first : 0xE0 + code / 0x1000 = 0xED := by omega
  have second := start_continuation (0x80 + code / 0x40 % 0x40) (by omega) (by omega)
  have third := start_continuation (0x80 + code % 0x40) (by omega) (by omega)
  have small : 0x80 + code / 0x40 % 0x40 < 256 := by omega
  have outside : ¬ ((0x80 : UInt8) ≤ UInt8.ofNat (0x80 + code / 0x40 % 0x40) ∧
      UInt8.ofNat (0x80 + code / 0x40 % 0x40) ≤ 0x9F) := by
    rw [UInt8.le_iff_toNat_le (b := 0x9F), UInt8.toNat_ofNat_of_lt' small]
    rintro ⟨-, least⟩
    change 0x80 + code / 0x40 % 0x40 ≤ 0x9F at least
    omega
  have refused : (Progress.within 2 0x80 0x9F 13).feed (UInt8.ofNat (0x80 + code / 0x40 % 0x40)) =
      ([replacement, replacement], .ready) := by
    rw [Progress.feed, if_neg outside, second]
  rw [codeBytes, if_neg (by omega), if_neg (by omega), if_pos (by omega), first]
  simp only [Nat.toUInt8_eq, Progress.settle]
  rw [show Progress.ready.feed (UInt8.ofNat 0xED) = ([], .within 2 0x80 0x9F 13) from rfl, refused]
  rw [Progress.feed, third]
  rfl

theorem settle_sign (sign : Sign) (rest : List UInt16) (stands : sign.Stands rest) :
    Progress.ready.settle (codeBytes sign.code) = (sign.shown, .ready) := by
  cases sign with
  | character c => rw [Sign.code, codeBytes_toNat, settle_character, Sign.shown]
  | lone unit => exact settle_surrogate unit.toNat (Sign.surrogate_of_stands unit rest stands)

theorem settle_signs (units : List UInt16) (signs : List Sign) (reads : Reads units signs) :
    Progress.ready.settle (signs.flatMap fun sign => codeBytes sign.code) = (signs.flatMap Sign.shown, .ready) := by
  induction reads with
  | nil => rfl
  | cons sign rest signs stands _ ih =>
    rw [List.flatMap_cons, settle_append, settle_sign sign rest stands, ih, List.flatMap_cons]

theorem settle_toBytes (text : Units) (signs : List Sign) (reads : Reads text.toList signs) :
    Progress.ready.settle text.toBytes.toList = (signs.flatMap Sign.shown, .ready) := by
  rw [toList_toBytes, codes_of_reads text signs reads, List.flatMap_map, settle_signs _ signs reads]

theorem toText_of_reads (text : Units) (signs : List Sign) (reads : Reads text.toList signs) :
    text.toText.toList = signs.flatMap Sign.shown := by
  rw [toText, toList_decode, settle_toBytes text signs reads]
  exact List.append_nil _

theorem settle_toText (text : Units) :
    Progress.ready.settle text.toBytes.toList = (text.toText.toList, .ready) := by
  obtain ⟨signs, reads⟩ := exists_reads text.toList
  rw [settle_toBytes text signs reads, toText_of_reads text signs reads]

/-- The bytes of texts, decoded together, are the texts as each is shown on its own. -/
theorem decode_texts (texts : List Units) :
    decode (texts.flatMap fun text => text.toBytes.toList).toArray = String.join (texts.map toText) := by
  have settled : Progress.ready.settle (texts.flatMap fun text => text.toBytes.toList) =
      (texts.flatMap fun text => text.toText.toList, .ready) := by
    induction texts with
    | nil => rfl
    | cons text texts ih => rw [List.flatMap_cons, settle_append, settle_toText, ih, List.flatMap_cons]
  refine String.toList_inj.1 ?_
  rw [toList_decode, settled, String.toList_join, List.flatMap_map]
  exact List.append_nil _

end Units

end ScriptSandbox
