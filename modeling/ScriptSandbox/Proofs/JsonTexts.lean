import ScriptSandbox.Proofs.Crossing
import ScriptSandbox.Proofs.JsonGrammar

/-!
The reader of JSON texts accepts exactly the spellings of the grammar. It takes characters and escapes one after
the other; an escaped surrogate is read together with the one behind it, and refused if there is none.
-/

namespace ScriptSandbox.Json

theorem hexDigit_lt (c : Char) (n : Nat) (digit : HexDigit c n) : n < 16 := by
  obtain ⟨alphabet, among, digit⟩ := digit
  have length : ∀ alphabet ∈ hexAlphabets, alphabet.length = 16 := by decide
  rw [← length alphabet among]
  exact (List.getElem?_eq_some_iff.1 digit).1

theorem hexValue?_iff (c : Char) (n : Nat) : hexValue? c = some n ↔ HexDigit c n := by
  constructor
  · intro found
    have small : c.toNat < 128 := by
      have ends (d : Char) (upTo : c ≤ d) : c.toNat ≤ d.toNat := upTo
      unfold hexValue? at found
      split at found
      · next inside => exact (ends '9' inside.2).trans_lt (by decide)
      split at found
      · next inside => exact (ends 'f' inside.2).trans_lt (by decide)
      split at found
      · next inside => exact (ends 'F' inside.2).trans_lt (by decide)
      · cases found
    have each : ∀ code < 128, ∀ n ∈ hexValue? (Char.ofNat code), HexDigit (Char.ofNat code) n := by decide
    have here := each c.toNat small n
    rw [Char.ofNat_toNat] at here
    exact here found
  · have each : ∀ alphabet ∈ hexAlphabets, ∀ n < 16, alphabet[n]?.bind hexValue? = some n := by decide
    intro digit
    have small := hexDigit_lt c n digit
    obtain ⟨alphabet, among, digit⟩ := digit
    have here := each alphabet among n small
    rwa [digit] at here

theorem hexUnit?_iff (a b c d : Char) (unit : Nat) : hexUnit? a b c d = some unit ↔
    ∃ k l m n, HexDigit a k ∧ HexDigit b l ∧ HexDigit c m ∧ HexDigit d n ∧ unit = ((k * 16 + l) * 16 + m) * 16 + n := by
  simp only [hexUnit?, Option.bind_eq_bind, Option.bind_eq_some_iff, Option.pure_def, Option.some.injEq, hexValue?_iff]
  constructor
  · rintro ⟨k, first, l, second, m, third, n, fourth, rfl⟩
    exact ⟨k, l, m, n, first, second, third, fourth, rfl⟩
  · rintro ⟨k, l, m, n, first, second, third, fourth, rfl⟩
    exact ⟨k, first, l, second, m, third, n, fourth, rfl⟩

theorem hexUnit?_lt (a b c d : Char) (unit : Nat) (read : hexUnit? a b c d = some unit) : unit < 0x10000 := by
  obtain ⟨k, l, m, n, first, second, third, fourth, rfl⟩ := (hexUnit?_iff a b c d unit).1 read
  have k_lt := hexDigit_lt a k first
  have l_lt := hexDigit_lt b l second
  have m_lt := hexDigit_lt c m third
  have n_lt := hexDigit_lt d n fourth
  omega

theorem spells_unit (a b c d : Char) (unit : Nat) (read : hexUnit? a b c d = some unit) :
    Letter.Spells (.unit unit.toUInt16) ['\\', 'u', a, b, c, d] := by
  have small := hexUnit?_lt a b c d unit read
  obtain ⟨k, l, m, n, first, second, third, fourth, whole⟩ := (hexUnit?_iff a b c d unit).1 read
  exact .long _ a b c d k l m n first second third fourth ((Nat.mod_eq_of_lt small).trans whole)

theorem shortEscape?_iff (mark c : Char) : shortEscape? mark = some c ↔ (mark, c) ∈ shortEscapes := by
  unfold shortEscape?
  split <;> simp_all [shortEscapes, eq_comm]

theorem spellsChars_nil : SpellsChars [] [] := ⟨[], [], .nil, rfl, rfl⟩

theorem spellsChars_append (first more text : List Char) (letters : List Letter) (pieces : List (List Char))
    (spelled : List.Forall₂ Letter.Spells letters pieces) (same : unitsOf first = letters.flatMap Letter.units)
    (rest : SpellsChars more text) : SpellsChars (first ++ more) (pieces.flatten ++ text) := by
  obtain ⟨letters', pieces', spelled', same', rfl⟩ := rest
  refine ⟨letters ++ letters', pieces ++ pieces', List.rel_append spelled spelled', ?_, List.flatten_append.symm⟩
  rw [unitsOf, List.flatMap_append, List.flatMap_append, ← same, ← same']
  rfl

theorem toNat_ofNat (n : Nat) (proper : n < 0xD800 ∨ 0xDFFF < n ∧ n < 0x110000) : (Char.ofNat n).toNat = n := by
  rw [Char.ofNat, dif_pos proper]
  rfl

theorem unitsOf_front (chars : List Char) (unit : UInt16) (more : List UInt16) (same : unitsOf chars = unit :: more) :
    ∃ c rest, chars = c :: rest ∧ Units.ofCode c.toNat ++ unitsOf rest = unit :: more := by
  cases chars with
  | nil => cases same
  | cons c rest => exact ⟨c, rest, rfl, same⟩

theorem ofCode_cases (c : Char) :
    c.toNat < 0x10000 ∧ (∃ unit : UInt16, unit.toNat = c.toNat ∧ Units.ofCode c.toNat = [unit]) ∨
      0x10000 ≤ c.toNat ∧ ∃ high low : UInt16, high.toNat = 0xD800 + (c.toNat - 0x10000) / 0x400 ∧
        low.toNat = 0xDC00 + (c.toNat - 0x10000) % 0x400 ∧ Units.ofCode c.toNat = [high, low] := by
  have range := Text.toNat_cases c
  rw [Units.ofCode]
  split
  · next small => exact .inl ⟨small, c.toNat.toUInt16, UInt16.toNat_ofNat_of_lt' small, rfl⟩
  · next large =>
    have most : UInt16.size = 0x10000 := rfl
    exact .inr ⟨by omega, _, _, UInt16.toNat_ofNat_of_lt' (by omega), UInt16.toNat_ofNat_of_lt' (by omega), rfl⟩

theorem unitsOf_char (chars : List Char) (c : Char) (more : List UInt16)
    (same : unitsOf chars = Units.ofCode c.toNat ++ more) : ∃ rest, chars = c :: rest ∧ unitsOf rest = more := by
  have equal (d : Char) (number : d.toNat = c.toNat) : d = c := by
    rw [← Char.ofNat_toNat d, number, Char.ofNat_toNat]
  have range := Text.toNat_cases c
  obtain ⟨small, unit, number, units⟩ | ⟨large, high, low, upper, lower, units⟩ := ofCode_cases c
  all_goals
    simp only [units, List.cons_append, List.nil_append] at same
    obtain ⟨d, rest, rfl, front⟩ := unitsOf_front _ _ _ same
    have range' := Text.toNat_cases d
    obtain ⟨small', unit', number', units'⟩ | ⟨large', high', low', upper', lower', units'⟩ := ofCode_cases d
    all_goals
      rw [units'] at front
      simp only [List.cons_append, List.nil_append, List.cons.injEq] at front
  · exact ⟨rest, by rw [equal d (by rw [← number', front.1, number])], front.2⟩
  · rw [front.1] at upper'
    omega
  · rw [front.1] at number'
    omega
  · rw [front.1] at upper'
    rw [front.2.1] at lower'
    exact ⟨rest, by rw [equal d (by omega)], front.2.2⟩

/-- Between the characters that were read before and a text's end stands the spelling of the others. -/
def Spelled (done input : List Char) (value : String) (rest : List Char) : Prop :=
  ∃ chars inside, value.toList = done.reverse ++ chars ∧ SpellsChars chars inside ∧ input = inside ++ '"' :: rest

theorem Spelled.before (done input : List Char) (value : String) (rest : List Char) (c : Char) (letters : List Letter)
    (pieces : List (List Char)) (spelled : List.Forall₂ Letter.Spells letters pieces)
    (same : Units.ofCode c.toNat = letters.flatMap Letter.units) (later : Spelled (c :: done) input value rest) :
    Spelled done (pieces.flatten ++ input) value rest := by
  obtain ⟨chars, inside, whole, others, rfl⟩ := later
  refine ⟨c :: chars, pieces.flatten ++ inside, ?_, ?_, (List.append_assoc _ _ _).symm⟩
  · rw [whole, List.reverse_cons, List.append_assoc, List.singleton_append]
  · exact spellsChars_append [c] chars inside letters pieces spelled
      (by rw [unitsOf, List.flatMap_singleton, same]) others

theorem textBody_sound (done input : List Char) (value : String) (rest : List Char)
    (read : textBody done input = some (value, rest)) : Spelled done input value rest := by
  fun_induction textBody done input with
  | case1 | case3 | case5 | case6 | case8 | case9 | case10 | case12 => cases read
  | case2 done rest =>
    cases read
    exact ⟨[], [], by rw [String.toList_ofList, List.append_nil], spellsChars_nil, rfl⟩
  | case4 done a b c d input unit found apart ih =>
    have small := hexUnit?_lt a b c d unit found
    have number : (Char.ofNat unit).toNat = unit := toNat_ofNat _ (by omega)
    refine Spelled.before done input value rest _ [.unit unit.toUInt16] [_]
      (.cons (spells_unit a b c d unit found) .nil)
      ?_ (ih read)
    rw [number, Units.ofCode, if_pos small]
    rfl
  | case7 done a b c d high found apart high_ e f g h input low found' low_ ih =>
    have number : (Char.ofNat (0x10000 + (high - 0xD800) * 0x400 + (low - 0xDC00))).toNat =
        0x10000 + (high - 0xD800) * 0x400 + (low - 0xDC00) :=
      toNat_ofNat _ (by omega)
    refine Spelled.before done input value rest _ [.unit high.toUInt16, .unit low.toUInt16] [_, _]
      (.cons (spells_unit a b c d high found) (.cons (spells_unit e f g h low found') .nil)) ?_ (ih read)
    have quotient : 0xD800 + (0x10000 + (high - 0xD800) * 0x400 + (low - 0xDC00) - 0x10000) / 0x400 = high := by omega
    have remainder : 0xDC00 + (0x10000 + (high - 0xD800) * 0x400 + (low - 0xDC00) - 0x10000) % 0x400 = low := by omega
    rw [number, Units.ofCode, if_neg (by omega), quotient, remainder]
    rfl
  | case11 done mark input _ c found ih =>
    exact Spelled.before done input value rest c [.char c] [_]
      (.cons (.short c mark ((shortEscape?_iff mark c).1 found)) .nil) (List.flatMap_singleton _ _).symm (ih read)
  | case13 done c input notQuote _ _ proper ih =>
    rw [not_or] at proper
    exact Spelled.before done input value rest c [.char c] [_]
      (.cons (.plain c (Nat.le_of_not_lt proper.1) notQuote proper.2) .nil) (List.flatMap_singleton _ _).symm (ih read)

theorem textBody_plain (done rest : List Char) (c : Char) (printable : 0x20 ≤ c.toNat) (notQuote : c ≠ '"')
    (notSlash : c ≠ '\\') : textBody done (c :: rest) = textBody (c :: done) rest := by
  rw [textBody]
  · exact if_neg fun refused => refused.elim (Nat.not_lt.2 printable) notSlash
  · exact notQuote
  · exact fun _ _ _ _ _ same _ => notSlash same
  · exact fun _ _ same _ => notSlash same

theorem textBody_short (done rest : List Char) (c mark : Char) (escape : (mark, c) ∈ shortEscapes) :
    textBody done ('\\' :: mark :: rest) = textBody (c :: done) rest := by
  have notUnit : mark ≠ 'u' := by
    rintro rfl
    cases (shortEscape?_iff 'u' c).2 escape
  rw [textBody]
  · rw [(shortEscape?_iff mark c).2 escape]
  · exact fun _ _ _ _ _ same _ => notUnit same

theorem ofNat_of_toNat (c : Char) (n : Nat) (same : n = c.toNat) : Char.ofNat n = c := by
  rw [same, Char.ofNat_toNat]

theorem unitsOf_eq_nil (chars : List Char) (same : unitsOf chars = []) : chars = [] := by
  cases chars with
  | nil => rfl
  | cons c chars =>
    have some_ : Units.ofCode c.toNat ≠ [] := by
      rw [Units.ofCode]
      split <;> exact List.cons_ne_nil _ _
    exact absurd (List.append_eq_nil_iff.1 same).1 some_

theorem escaped_low (letters : List Letter) (pieces : List (List Char))
    (spelled : List.Forall₂ Letter.Spells letters pieces) (low : UInt16) (more : List UInt16)
    (isLow : 0xDC00 ≤ low.toNat ∧ low.toNat < 0xE000) (same : letters.flatMap Letter.units = low :: more) :
    ∃ letters' pieces' a b c d, letters = .unit low :: letters' ∧ pieces = ['\\', 'u', a, b, c, d] :: pieces' ∧
      hexUnit? a b c d = some low.toNat ∧ List.Forall₂ Letter.Spells letters' pieces' ∧
        letters'.flatMap Letter.units = more := by
  have notChar (c : Char) (others : List UInt16) (front : Units.ofCode c.toNat ++ others = low :: more) : False := by
    have range := Text.toNat_cases c
    obtain ⟨small, unit, number, units⟩ | ⟨large, high, other, upper, -, units⟩ := ofCode_cases c
    · rw [units, List.singleton_append, List.cons.injEq] at front
      rw [front.1] at number
      omega
    · simp only [units, List.cons_append, List.cons.injEq] at front
      rw [front.1] at upper
      omega
  cases spelled with
  | nil => cases same
  | cons first others =>
    cases first with
    | plain c printable notQuote notSlash => exact (notChar c _ same).elim
    | short c mark escape => exact (notChar c _ same).elim
    | long number a b c d k l m n one two three four whole =>
      obtain ⟨rfl, later⟩ := List.cons.inj same
      exact ⟨_, _, a, b, c, d, rfl, rfl,
        (hexUnit?_iff a b c d number.toNat).2 ⟨k, l, m, n, one, two, three, four, whole⟩, others, later⟩

theorem textBody_complete (letters : List Letter) (pieces : List (List Char))
    (spelled : List.Forall₂ Letter.Spells letters pieces) (chars done rest : List Char)
    (same : unitsOf chars = letters.flatMap Letter.units) :
    textBody done (pieces.flatten ++ '"' :: rest) = some (String.ofList (done.reverse ++ chars), rest) := by
  -- An escape can take the next letter with it, so the letters behind both are needed as well.
  induction length : letters.length using Nat.strongRecOn generalizing letters pieces chars done with
  | ind steps ih =>
  have go (c : Char) (letters : List Letter) (pieces : List (List Char)) (fewer : letters.length < steps)
      (others : List.Forall₂ Letter.Spells letters pieces) (chars : List Char)
      (later : unitsOf chars = letters.flatMap Letter.units) :
      textBody (c :: done) (pieces.flatten ++ '"' :: rest) =
        some (String.ofList (done.reverse ++ c :: chars), rest) := by
    rw [ih _ fewer letters pieces others chars (c :: done) later rfl, List.reverse_cons, List.append_assoc]
    rfl
  cases spelled with
  | nil =>
    rw [unitsOf_eq_nil chars same]
    simp [textBody]
  | @cons letter piece letters pieces first others =>
    have fewer : letters.length < steps := by rw [← length]; exact Nat.lt_succ_self _
    rw [List.flatten_cons, List.append_assoc]
    cases first with
    | plain c printable notQuote notSlash =>
      obtain ⟨chars, rfl, later⟩ := unitsOf_char chars c _ same
      exact (textBody_plain done _ c printable notQuote notSlash).trans (go c letters pieces fewer others chars later)
    | short c mark escape =>
      obtain ⟨chars, rfl, later⟩ := unitsOf_char chars c _ same
      exact (textBody_short done _ c mark escape).trans (go c letters pieces fewer others chars later)
    | long number a b c d k l m n one two three four whole =>
      have found := (hexUnit?_iff a b c d number.toNat).2 ⟨k, l, m, n, one, two, three, four, whole⟩
      obtain ⟨char, chars, rfl, front⟩ := unitsOf_front chars number _ same
      have range := Text.toNat_cases char
      obtain ⟨small, unit, number', units⟩ | ⟨large, high, low, upper, lower, units⟩ := ofCode_cases char
      · rw [units, List.singleton_append, List.cons.injEq] at front
        have code : number.toNat = char.toNat := by rw [← front.1, number']
        refine Eq.trans ?_ (go char letters pieces fewer others chars front.2)
        simp only [List.cons_append, List.nil_append]
        rw [textBody, found]
        simp only
        rw [if_pos (by omega), ofNat_of_toNat char _ code]
      · simp only [units, List.cons_append, List.nil_append, List.cons.injEq] at front
        obtain ⟨letters, pieces, e, f, g, h, rfl, rfl, found', others, later⟩ :=
          escaped_low letters pieces others low _ (by omega) front.2.symm
        refine Eq.trans ?_ (go char letters pieces (Nat.lt_of_succ_lt fewer) others chars later.symm)
        simp only [List.flatten_cons, List.cons_append, List.nil_append]
        rw [← front.1] at found
        rw [textBody, found]
        simp only [found']
        rw [if_neg (by omega), if_neg (by omega), if_pos (by omega), ofNat_of_toNat char _ (by omega)]

end ScriptSandbox.Json
