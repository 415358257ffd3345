import ScriptSandbox.Proofs.JsonGrammar

/-!
The reader of JSON numbers accepts exactly the spellings of the grammar that are in the range of doubles. It
takes sign, whole part, fraction and exponent in this order, each as long as it goes.
-/

namespace ScriptSandbox.Decimal

theorem ofDigits_snoc (front : List Char) (digit : Char) :
    ofDigits (front ++ [digit]) = ofDigits front * 10 + digitValue digit := by
  rw [ofDigits, List.foldl_append]
  rfl

theorem ofDigits_le (front more : List Char) : ofDigits front ≤ ofDigits (front ++ more) := by
  induction more generalizing front with
  | nil => rw [List.append_nil]
  | cons digit more ih =>
    have next := ih (front ++ [digit])
    rw [ofDigits_snoc, List.append_assoc] at next
    exact le_trans (by omega) next

theorem gather_append (front kept left : List Char) (fits : ofDigits (front ++ kept) < 2 ^ 64)
    (full : ∀ digit ∈ left.head?, 2 ^ 64 ≤ ofDigits (front ++ kept ++ [digit])) :
    gather (ofDigits front) (kept ++ left) = (ofDigits (front ++ kept), left.length) := by
  induction kept generalizing front with
  | nil =>
    rw [List.append_nil] at full ⊢
    cases left with
    | nil => rfl
    | cons digit left =>
      have large := full digit rfl
      rw [ofDigits_snoc] at large
      exact if_neg (Nat.not_lt.2 large)
  | cons digit kept ih =>
    rw [List.append_cons] at fits full ⊢
    have small : ofDigits (front ++ [digit]) < 0x10000000000000000 := (ofDigits_le (front ++ [digit]) kept).trans_lt fits
    rw [ofDigits_snoc] at small
    rw [List.cons_append, gather, if_pos small, ← ofDigits_snoc]
    exact ih (front ++ [digit]) fits full

theorem exists_gathered (front digits : List Char) (fits : ofDigits front < 2 ^ 64) :
    ∃ kept left, digits = kept ++ left ∧ ofDigits (front ++ kept) < 2 ^ 64 ∧
      ∀ digit ∈ left.head?, 2 ^ 64 ≤ ofDigits (front ++ kept ++ [digit]) := by
  induction digits generalizing front with
  | nil => exact ⟨[], [], rfl, by rwa [List.append_nil], nofun⟩
  | cons digit digits ih =>
    by_cases more : ofDigits (front ++ [digit]) < 2 ^ 64
    · obtain ⟨kept, left, rfl, small, full⟩ := ih (front ++ [digit]) more
      rw [← List.append_cons] at small full
      exact ⟨digit :: kept, left, rfl, small, full⟩
    · refine ⟨[], digit :: digits, rfl, by rwa [List.append_nil], ?_⟩
      rintro _ ⟨⟩
      rw [List.append_nil]
      exact Nat.not_lt.1 more

end ScriptSandbox.Decimal

namespace ScriptSandbox.Json

/-- What may stand behind a value: a blank, a comma or a closing bracket, or nothing. -/
def Delimited (rest : List Char) : Prop :=
  ∀ c, rest.head? = some c → c ∈ [' ', '\t', '\n', '\r', ',', ']', '\x7d']

theorem delimited_mark (mark : Char) (marks : mark ∈ [',', ']', '\x7d']) (rest : List Char) :
    Delimited (mark :: rest) := by
  rintro c ⟨⟩
  simp only [List.mem_cons, List.not_mem_nil, or_false] at marks ⊢
  tauto

def NoDigit (rest : List Char) : Prop := ∀ c, rest.head? = some c → c.isDigit = false

theorem digits_of_all (found rest : List Char) (all : ∀ c ∈ found, c.isDigit = true) (ends : NoDigit rest) :
    digits (found ++ rest) = (found, rest) := by
  have stops : rest.takeWhile Char.isDigit = [] ∧ rest.dropWhile Char.isDigit = rest := by
    cases rest with
    | nil => exact ⟨rfl, rfl⟩
    | cons c rest =>
      have other := ends c rfl
      exact ⟨List.takeWhile_cons_of_neg (by simp [other]), List.dropWhile_cons_of_neg (by simp [other])⟩
  rw [digits, List.takeWhile_append_of_pos all, List.dropWhile_append_of_pos all, stops.1, stops.2, List.append_nil]

theorem digits_all (input found rest : List Char) (read : digits input = (found, rest)) :
    input = found ++ rest ∧ ∀ c ∈ found, c.isDigit = true := by
  cases read
  exact ⟨List.takeWhile_append_dropWhile.symm, fun c among => List.mem_takeWhile_imp among⟩

theorem fraction?_sound (input rest : List Char) (fraction : Option (List Char))
    (read : fraction? input = some (fraction, rest)) : ∃ text, input = text ++ rest ∧ SpellsFraction fraction text := by
  unfold fraction? at read
  split at read
  · next input =>
    simp only at read
    split at read
    · cases read
    · next some_ =>
      cases read
      obtain ⟨whole, all⟩ := digits_all input _ _ rfl
      refine ⟨'.' :: (digits input).1, congrArg ('.' :: ·) whole, .some _ ⟨?_, all⟩⟩
      rintro none_
      rw [none_] at some_
      exact some_ rfl
  · cases read
    exact ⟨[], rfl, .none⟩

theorem fraction?_complete (fraction : Option (List Char)) (text rest : List Char)
    (spelled : SpellsFraction fraction text) (ends : NoDigit rest) (noPoint : ∀ more, rest ≠ '.' :: more) :
    fraction? (text ++ rest) = some (fraction, rest) := by
  cases spelled with
  | none =>
    unfold fraction?
    split
    · next more same => exact absurd same (noPoint more)
    · rfl
  | some found proper =>
    have some_ : found.isEmpty = false := List.isEmpty_eq_false_iff.2 proper.1
    unfold fraction?
    simp only [List.cons_append, digits_of_all found rest proper.2 ends, some_, Bool.false_eq_true, if_false]

theorem exponent?_sound (input rest : List Char) (exponent : Option Int)
    (read : exponent? input = some (exponent, rest)) : ∃ text, input = text ++ rest ∧ SpellsExponent exponent text := by
  unfold exponent? at read
  split at read
  · next mark input =>
    split at read
    · next marked =>
      have listed : mark ∈ ['e', 'E'] := by simpa using marked
      split at read
      next negative input' signed =>
      simp only at read
      split at read
      · cases read
      · next some_ =>
        obtain ⟨whole, all⟩ := digits_all input' _ _ rfl
        have proper : Digits (digits input').1 := ⟨fun none_ => some_ (List.isEmpty_iff.2 none_), all⟩
        cases read
        split at signed
        · cases signed
          exact ⟨_, congrArg (mark :: '-' :: ·) whole, .minus mark _ listed proper⟩
        · cases signed
          exact ⟨_, congrArg (mark :: '+' :: ·) whole, .plus mark _ listed proper⟩
        · cases signed
          exact ⟨_, congrArg (mark :: ·) whole, .unsigned mark _ listed proper⟩
    · cases read
      exact ⟨[], rfl, .none⟩
  · cases read
    exact ⟨[], rfl, .none⟩

theorem notDigit (found : List Char) (proper : Digits found) (rest : List Char) (c : Char) (other : c.isDigit = false)
    (more : List Char) : found ++ rest ≠ c :: more := by
  intro same
  cases found with
  | nil => exact proper.1 rfl
  | cons d found =>
    have digit := proper.2 d List.mem_cons_self
    rw [(List.cons.inj same).1, other] at digit
    cases digit

theorem exponent?_complete (exponent : Option Int) (text rest : List Char) (spelled : SpellsExponent exponent text)
    (ends : NoDigit rest) (noMark : ∀ c more, rest = c :: more → c ∉ ['e', 'E']) :
    exponent? (text ++ rest) = some (exponent, rest) := by
  have go (found : List Char) (proper : Digits found) :
      digits (found ++ rest) = (found, rest) ∧ found.isEmpty = false :=
    ⟨digits_of_all found rest proper.2 ends, List.isEmpty_eq_false_iff.2 proper.1⟩
  cases spelled with
  | none =>
    cases rest with
    | nil => rfl
    | cons c more =>
      have other := noMark c more rfl
      exact if_neg (by simpa using other)
  | unsigned mark found marked proper =>
    obtain ⟨read, some_⟩ := go found proper
    simp only [List.cons_append]
    rw [exponent?, if_pos (by simpa using marked)]
    · simp [read, some_]
    · exact fun _ => notDigit found proper rest '-' rfl _
    · exact fun _ => notDigit found proper rest '+' rfl _
  | plus mark found marked proper =>
    obtain ⟨read, some_⟩ := go found proper
    simp only [List.cons_append]
    rw [exponent?, if_pos (by simpa using marked)]
    simp [read, some_]
  | minus mark found marked proper =>
    obtain ⟨read, some_⟩ := go found proper
    simp only [List.cons_append]
    rw [exponent?, if_pos (by simpa using marked)]
    simp [read, some_]

/-! ### The values of numbers -/

namespace Numeral

theorem exists_kept (numeral : Numeral) : ∃ significand place, numeral.Kept significand place := by
  obtain ⟨whole, lost, before, small, full⟩ := Decimal.exists_gathered [] numeral.whole (by decide)
  obtain ⟨fraction, left, behind, fits, full'⟩ := Decimal.exists_gathered whole (numeral.fraction.getD []) small
  exact ⟨_, _, .parts whole lost fraction left before behind fits full full'⟩

theorem integer_of_small (numeral : Numeral) (whole : numeral.fraction = none ∧ numeral.exponent = none)
    (most : numeral.coefficient < 2 ^ 64)
    (signed : numeral.negative = true → numeral.coefficient ≠ 0 ∧ numeral.coefficient ≤ 0x8000000000000000) :
    ∃ n, numeral.Integer n := by
  refine ⟨_, whole, rfl, fun minus => ?_, ?_, ?_⟩
  · rw [if_pos minus]
    have small := signed minus
    omega
  · split
    · next minus =>
      have small := signed minus
      omega
    · omega
  · split <;> omega

def json? (numeral : Numeral) : Option Json :=
  ofParts? numeral.negative numeral.whole numeral.fraction numeral.exponent

theorem json?_of_integer (numeral : Numeral) (n : Int) (integer : numeral.Integer n) :
    numeral.json? = some (.integer n) := by
  obtain ⟨negative, whole, fraction, exponent⟩ := numeral
  obtain ⟨⟨rfl, rfl⟩, same, notMinusZero, least, greatest⟩ := integer
  have all : coefficient ⟨negative, whole, none, none⟩ = Decimal.ofDigits whole :=
    congrArg Decimal.ofDigits (List.append_nil whole)
  rw [all] at same
  have small : Decimal.ofDigits whole < 2 ^ 64 := by split at same <;> omega
  have gathered : Decimal.gather 0 (whole ++ []) = (Decimal.ofDigits whole, 0) :=
    Decimal.gather_append [] whole [] small nofun
  rw [List.append_nil] at gathered
  change ofParts? negative whole none none = _
  rw [ofParts?, gathered]
  simp only [and_self, if_true, wholeNumber]
  cases negative with
  | true =>
    have some_ := notMinusZero rfl
    simp only [if_true] at same
    rw [if_pos rfl, if_neg (by omega), same]
  | false =>
    simp only [Bool.false_eq_true, if_false] at same
    rw [if_neg Bool.false_ne_true, same]

theorem json?_of_kept (numeral : Numeral) (other : ∀ n, ¬ numeral.Integer n) (significand : Nat) (place : Int)
    (kept : numeral.Kept significand place) :
    numeral.json? = if significand ≠ 0 ∧ 0x80000000 ≤ numeral.exponent.getD 0 then none
      else (Decimal.scaled? significand place).map fun size => .float (if numeral.negative then -size else size) := by
  obtain ⟨whole, lost, fraction, left, before, behind, fits, full, full'⟩ := kept
  have front : Decimal.gather 0 (whole ++ lost) = (Decimal.ofDigits whole, lost.length) :=
    Decimal.gather_append [] whole lost ((Decimal.ofDigits_le whole fraction).trans_lt fits) full
  have rest := Decimal.gather_append whole fraction left fits full'
  rw [json?, ofParts?, before, front]
  by_cases plain : numeral.fraction = none ∧ numeral.exponent = none ∧ lost.length = 0
  · obtain ⟨noFraction, noExponent, noneLost⟩ := plain
    rw [noFraction, Option.getD_none] at behind
    obtain ⟨rfl, rfl⟩ := List.append_eq_nil_iff.1 behind.symm
    obtain rfl := List.length_eq_zero_iff.1 noneLost
    rw [List.append_nil] at fits
    have all : numeral.coefficient = Decimal.ofDigits whole := by
      rw [coefficient, before, noFraction, Option.getD_none, List.append_nil, List.append_nil]
    -- All digits are kept, and were the number not negative, it would be an integer.
    have minus : numeral.negative = true := by
      by_contra positive
      obtain ⟨n, integer⟩ := numeral.integer_of_small ⟨noFraction, noExponent⟩ (all ▸ fits) fun minus =>
        absurd minus positive
      exact other n integer
    have outside : Decimal.ofDigits whole = 0 ∨ 0x8000000000000000 < Decimal.ofDigits whole := by
      by_contra within
      obtain ⟨n, integer⟩ := numeral.integer_of_small ⟨noFraction, noExponent⟩ (all ▸ fits) fun _ => by omega
      exact other n integer
    simp [noFraction, noExponent, minus, outside, wholeNumber, Decimal.scaled?]
  · simp only [if_neg plain, behind, rest, List.length_append, Nat.add_sub_cancel]

theorem json?_eq_some_iff_of_kept (numeral : Numeral) (other : ∀ n, ¬ numeral.Integer n) (significand : Nat)
    (place : Int) (kept : numeral.Kept significand place) (value : Json) :
    numeral.json? = some value ↔ numeral.InRange significand place ∧
      value = .float (numeral.double significand place) := by
  have short : significand < 2 ^ 64 := by
    cases kept
    assumption
  have range := Double.isSome_scaled? significand place short
  rw [numeral.json?_of_kept other significand place kept, double]
  cases scaled : Decimal.scaled? significand place with
  | none =>
    rw [scaled] at range
    refine iff_of_false ?_ fun found => absurd (range.2 found.1.product) nofun
    split <;> exact nofun
  | some size =>
    have product := range.1 (by rw [scaled]; rfl)
    rw [Option.getD_some, Option.map_some]
    constructor
    · intro found
      split at found
      · cases found
      · next few => exact ⟨⟨product, fun some_ => by omega⟩, (Option.some.inj found).symm⟩
    · rintro ⟨⟨-, few⟩, rfl⟩
      rw [if_neg]
      rintro ⟨some_, many⟩
      have most := few some_
      omega

/-- A number that is no integer is read as the double of its kept digits, if they are in the range. -/
theorem json?_eq_some_iff (numeral : Numeral) (other : ∀ n, ¬ numeral.Integer n) (value : Json) :
    numeral.json? = some value ↔ ∃ significand place, numeral.Kept significand place ∧
      numeral.InRange significand place ∧ value = .float (numeral.double significand place) := by
  constructor
  · intro found
    obtain ⟨significand, place, kept⟩ := numeral.exists_kept
    exact ⟨significand, place, kept, (numeral.json?_eq_some_iff_of_kept other significand place kept value).1 found⟩
  · rintro ⟨significand, place, kept, found⟩
    exact (numeral.json?_eq_some_iff_of_kept other significand place kept value).2 found

theorem json?_eq_none (numeral : Numeral) (other : ∀ n, ¬ numeral.Integer n) (significand : Nat) (place : Int)
    (kept : numeral.Kept significand place) (outside : ¬ numeral.InRange significand place) : numeral.json? = none :=
  Option.eq_none_iff_forall_not_mem.2 fun value found =>
    outside ((numeral.json?_eq_some_iff_of_kept other significand place kept value).1 found).1

end Numeral

theorem number_of_parts (numeral : Numeral) (input unsigned afterWhole afterFraction rest : List Char)
    (signed : sign input = (numeral.negative, unsigned)) (whole : digits unsigned = (numeral.whole, afterWhole))
    (fraction : fraction? afterWhole = some (numeral.fraction, afterFraction))
    (exponent : exponent? afterFraction = some (numeral.exponent, rest)) :
    number input =
      if numeral.whole.isEmpty || (numeral.whole.head? == some '0' && decide (1 < numeral.whole.length)) then none
      else numeral.json?.map fun value => (value, rest) := by
  unfold number
  rw [signed]
  simp only [whole]
  split
  · rfl
  · simp only [fraction, exponent, Option.bind_eq_bind, Option.bind_some, Option.map_eq_bind]
    rfl

theorem sign_eq (input unsigned : List Char) (negative : Bool) (signed : sign input = (negative, unsigned)) :
    input = (if negative then ['-'] else []) ++ unsigned := by
  unfold sign at signed
  split at signed <;> cases signed <;> rfl

theorem properWhole_iff (whole : List Char) :
    (whole.isEmpty || (whole.head? == some '0' && decide (1 < whole.length))) = false ↔
      whole ≠ [] ∧ (whole.head? = some '0' → whole = ['0']) := by
  cases whole with
  | nil => simp
  | cons c more =>
    cases more with
    | nil => simp
    | cons d more => simp

theorem number_sound (input rest : List Char) (value : Json) (found : number input = some (value, rest)) :
    ∃ numeral : Numeral, ∃ text, input = text ++ rest ∧ numeral.Spells text ∧ numeral.json? = some value := by
  obtain ⟨negative, unsigned, signed⟩ : ∃ negative unsigned, sign input = (negative, unsigned) := ⟨_, _, rfl⟩
  obtain ⟨whole, afterWhole, wholly⟩ : ∃ whole afterWhole, digits unsigned = (whole, afterWhole) := ⟨_, _, rfl⟩
  have inverted := found
  unfold number at inverted
  rw [signed] at inverted
  simp only [wholly, Option.bind_eq_bind] at inverted
  split at inverted
  · cases inverted
  next proper =>
  obtain ⟨⟨fraction, afterFraction⟩, fractional, inverted⟩ := Option.bind_eq_some_iff.1 inverted
  obtain ⟨⟨exponent, behind⟩, exponential, inverted⟩ := Option.bind_eq_some_iff.1 inverted
  have parts := number_of_parts ⟨negative, whole, fraction, exponent⟩ input unsigned afterWhole
    afterFraction behind signed
    wholly fractional exponential
  rw [if_neg proper, found] at parts
  obtain ⟨_, valued, ⟨⟩⟩ := Option.map_eq_some_iff.1 parts.symm
  obtain ⟨someDigits, zero⟩ := (properWhole_iff whole).1 (Bool.eq_false_iff.2 proper)
  obtain ⟨joined, all⟩ := digits_all unsigned whole afterWhole wholly
  obtain ⟨before, splitBefore, spelledBefore⟩ := fraction?_sound afterWhole afterFraction fraction fractional
  obtain ⟨last, splitLast, spelledLast⟩ := exponent?_sound afterFraction rest exponent exponential
  refine ⟨⟨negative, whole, fraction, exponent⟩, _, ?_,
    .parts before last ⟨someDigits, all⟩ zero spelledBefore spelledLast, valued⟩
  rw [sign_eq input unsigned negative signed, joined, splitBefore, splitLast]
  simp only [List.append_assoc]

theorem apart_of_delimited (rest : List Char) (ends : Delimited rest) :
    NoDigit rest ∧ ∀ c more, rest = c :: more → c ∉ ['.', 'e', 'E'] := by
  have each : ∀ c ∈ [' ', '\t', '\n', '\r', ',', ']', '\x7d'], c.isDigit = false ∧ c ∉ ['.', 'e', 'E'] := by
    simp [Char.isDigit]
  refine ⟨fun c front => (each c (ends c front)).1, ?_⟩
  rintro c more rfl
  exact (each c (ends c rfl)).2

theorem exponent_front (exponent : Option Int) (text rest : List Char) (spelled : SpellsExponent exponent text)
    (ends : Delimited rest) : NoDigit (text ++ rest) ∧ ∀ more, text ++ rest ≠ '.' :: more := by
  have marks : ∀ mark ∈ ['e', 'E'], mark.isDigit = false ∧ mark ≠ '.' := by simp [Char.isDigit]
  have go (mark : Char) (marked : mark ∈ ['e', 'E']) (more : List Char) :
      NoDigit (mark :: more) ∧ ∀ more', mark :: more ≠ '.' :: more' := by
    refine ⟨?_, fun more' same => (marks mark marked).2 (List.cons.inj same).1⟩
    rintro c ⟨⟩
    exact (marks mark marked).1
  cases spelled with
  | none =>
    obtain ⟨noDigit, other⟩ := apart_of_delimited rest ends
    exact ⟨noDigit, fun more same => other '.' more same List.mem_cons_self⟩
  | unsigned mark digits marked proper => exact go mark marked _
  | plus mark digits marked proper => exact go mark marked _
  | minus mark digits marked proper => exact go mark marked _

theorem fraction_front (fraction : Option (List Char)) (text rest : List Char) (spelled : SpellsFraction fraction text)
    (ends : NoDigit rest) : NoDigit (text ++ rest) := by
  cases spelled with
  | none => exact ends
  | some digits proper =>
    rintro c ⟨⟩
    rfl

theorem sign_of_digits (negative : Bool) (found : List Char) (proper : Digits found) (rest : List Char) :
    sign ((if negative then ['-'] else []) ++ (found ++ rest)) = (negative, found ++ rest) := by
  cases negative with
  | true => rfl
  | false =>
    change sign (found ++ rest) = _
    unfold sign
    split
    · next same => exact absurd same (notDigit found proper rest '-' rfl _)
    · rfl

/-- A spelling of a number is read, if nothing behind it belongs to it. -/
theorem number_complete (numeral : Numeral) (text rest : List Char) (spelled : numeral.Spells text)
    (ends : Delimited rest) : number (text ++ rest) = numeral.json?.map fun value => (value, rest) := by
  obtain ⟨fraction, exponent, proper, zero, before, behind⟩ := spelled
  obtain ⟨noDigit, other⟩ := apart_of_delimited rest ends
  obtain ⟨noDigit', noPoint⟩ := exponent_front numeral.exponent exponent rest behind ends
  have exponential := exponent?_complete numeral.exponent exponent rest behind noDigit
    fun c more same among => other c more same (List.mem_cons_of_mem _ among)
  have fractional := fraction?_complete numeral.fraction fraction (exponent ++ rest) before noDigit' noPoint
  have afterWhole : NoDigit (fraction ++ (exponent ++ rest)) := fraction_front _ _ _ before noDigit'
  have wholly := digits_of_all numeral.whole (fraction ++ (exponent ++ rest)) proper.2 afterWhole
  have signed := sign_of_digits numeral.negative numeral.whole proper (fraction ++ (exponent ++ rest))
  simp only [List.append_assoc]
  rw [number_of_parts numeral _ _ _ _ _ signed wholly fractional exponential, if_neg]
  rw [Bool.not_eq_true, properWhole_iff]
  exact ⟨proper.1, zero⟩

theorem spells_front (numeral : Numeral) (text : List Char) (spelled : numeral.Spells text) :
    ∃ c more, text = c :: more ∧ (c = '-' ∨ c.isDigit = true) := by
  obtain ⟨fraction, exponent, proper, -, -, -⟩ := spelled
  cases numeral.negative with
  | true => exact ⟨'-', _, rfl, .inl rfl⟩
  | false =>
    cases digits : numeral.whole with
    | nil => exact absurd digits proper.1
    | cons c whole => exact ⟨c, _, rfl, .inr (proper.2 c (by rw [digits]; exact List.mem_cons_self))⟩

theorem number_integer (n : Int) (text rest : List Char) (spelled : SpellsInteger n text) (ends : Delimited rest) :
    number (text ++ rest) = some (.integer n, rest) := by
  obtain ⟨numeral, written, integer⟩ := spelled
  rw [number_complete numeral text rest written ends, numeral.json?_of_integer n integer, Option.map_some]

theorem number_float (x : Float) (text rest : List Char) (spelled : SpellsFloat x text) (ends : Delimited rest) :
    number (text ++ rest) = some (.float x, rest) := by
  obtain ⟨numeral, significand, place, written, other, kept, range, rfl⟩ := spelled
  rw [number_complete numeral text rest written ends,
    (numeral.json?_eq_some_iff other _).2 ⟨significand, place, kept, range, rfl⟩, Option.map_some]

theorem number_cases (input rest : List Char) (value : Json) (found : number input = some (value, rest)) :
    ∃ text, input = text ++ rest ∧ ((∃ n, value = .integer n ∧ SpellsInteger n text) ∨
      ∃ x, value = .float x ∧ SpellsFloat x text) := by
  obtain ⟨numeral, text, split_, spelled, valued⟩ := number_sound input rest value found
  refine ⟨text, split_, ?_⟩
  by_cases integral : ∃ n, numeral.Integer n
  · obtain ⟨n, integer⟩ := integral
    rw [numeral.json?_of_integer n integer] at valued
    exact .inl ⟨n, (Option.some.inj valued).symm, numeral, spelled, integer⟩
  · have other : ∀ n, ¬ numeral.Integer n := fun n integer => integral ⟨n, integer⟩
    obtain ⟨significand, place, kept, range, rfl⟩ := (numeral.json?_eq_some_iff other value).1 valued
    exact .inr ⟨_, rfl, numeral, significand, place, spelled, other, kept, range, rfl⟩

end ScriptSandbox.Json
