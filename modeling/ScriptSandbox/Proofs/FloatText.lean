import ScriptSandbox.Json.Writer
import ScriptSandbox.Proofs.JsonNumbers
import ScriptSandbox.Proofs.ShortestDecimal

/-!
The text of a finite double is a number again. It holds the digits of the shortest decimal, laid out with a point
or with an exponent, so that it is worth the same as the decimal. This keeps enough distance to the end of the range
of doubles, but for the largest three doubles, whose digits are known.
-/

namespace ScriptSandbox

/-! ### The parts of a finite double -/

theorem Double.ofBits?_of_finite (x : Float) (finite : x.isFinite = true) :
    ∃ binary, Binary.ofBits? x.toBits = some binary ∧ binary.significand < 2 ^ 53 ∧ -1074 ≤ binary.exponent ∧
      binary.exponent ≤ 971 := by
  have notFull : field x.toBits ≠ 0x7FF := by
    intro full
    have exponent := toNat_unpackExponent x.toBits
    rw [full] at exponent
    have same : @Float.Model.UnpackedFloat.unpackExponent .binary64 x.toBits.toBitVec = -1#11 :=
      BitVec.eq_of_toNat_eq exponent
    change (Float.Model.UnpackedFloat.unpack .binary64 x.toBits.toBitVec).isFinite = true at finite
    rw [Float.Model.UnpackedFloat.unpack] at finite
    simp only at finite
    rw [if_pos same] at finite
    split at finite <;> cases finite
  have small : field x.toBits < 0x800 := Nat.mod_lt _ (by decide)
  by_cases empty : field x.toBits = 0
  · have decoded : Binary.ofBits? x.toBits = some ⟨fraction x.toBits, -1074, false⟩ := by
      rw [ofBits?_eq, if_neg notFull, if_pos empty]
    exact ⟨_, decoded, significand_lt _ _ decoded, le_refl _, Int.le_of_lt (by decide : (-1074 : Int) < 971)⟩
  · have decoded := ofBits?_eq x.toBits
    rw [if_neg notFull, if_neg empty] at decoded
    refine ⟨_, decoded, significand_lt _ _ decoded, ?_, ?_⟩
    · change -1074 ≤ (field x.toBits : Int) - 1075
      omega
    · change (field x.toBits : Int) - 1075 ≤ 971
      omega

/-! ### Digits -/

namespace Decimal

theorem ofDigits_eq (digits : List Char) : ofDigits digits = Nat.ofDigitChars 10 digits 0 := by
  rw [Nat.ofDigitChars_eq_foldl, ofDigits]
  simp only [Nat.mul_comm 10, digitValue]

theorem ofDigits_append (front back : List Char) :
    ofDigits (front ++ back) = ofDigits front * 10 ^ back.length + ofDigits back := by
  rw [ofDigits_eq, ofDigits_eq, ofDigits_eq, Nat.ofDigitChars_append, Nat.ofDigitChars_eq_ofDigitChars_zero,
    Nat.mul_comm]

theorem ofDigits_lt (digits : List Char) (all : ∀ c ∈ digits, c.isDigit = true) :
    ofDigits digits < 10 ^ digits.length := by
  induction digits using List.reverseRecOn with
  | nil => exact Nat.one_pos
  | append_singleton front digit ih =>
    have less := ih fun c among => all c (List.mem_append_left _ among)
    have small : digitValue digit < 10 := by
      have proper := Char.isDigit_iff_toNat.1 (all digit (by simp))
      change digit.toNat - 48 < 10
      have most : digit.toNat ≤ 57 := proper.2
      omega
    rw [ofDigits_snoc, List.length_append, List.length_singleton, pow_succ]
    omega

theorem ofDigits_zeros (count : Nat) : ofDigits (List.replicate count '0') = 0 := by
  rw [ofDigits_eq, Nat.ofDigitChars_replicate_zero, Nat.mul_zero]

theorem ofDigits_toDigits (n : Nat) : ofDigits (Nat.toDigits 10 n) = n := by
  rw [ofDigits_eq, Nat.ofDigitChars_ten_toDigits]

theorem toDigits_head (n : Nat) (positive : 0 < n) :
    ∃ c rest, Nat.toDigits 10 n = c :: rest ∧ c ≠ '0' := by
  induction n using Nat.strongRecOn with
  | ind n ih =>
    by_cases small : n < 10
    · refine ⟨n.digitChar, [], Nat.toDigits_of_lt_base small, ?_⟩
      have each : ∀ n, n < 10 → 0 < n → n.digitChar ≠ '0' := by decide
      exact each n small positive
    · obtain ⟨c, rest, front, nonzero⟩ := ih (n / 10) (by omega) (by omega)
      refine ⟨c, rest ++ [(n % 10).digitChar], ?_, nonzero⟩
      rw [Nat.toDigits_of_base_le (by decide) (by omega), front]
      rfl

theorem ofDigits_lt_word (digits : List Char) (all : ∀ c ∈ digits, c.isDigit = true) (few : digits.length ≤ 16) :
    ofDigits digits < 2 ^ 64 :=
  (ofDigits_lt digits all).trans_le ((Nat.pow_le_pow_right (by decide) few).trans (by decide))

theorem le_ofDigits (first : Char) (rest : List Char) (digit : first.isDigit = true) (nonzero : first ≠ '0') :
    10 ^ rest.length ≤ ofDigits (first :: rest) := by
  have least : 48 ≤ first.toNat := (Char.isDigit_iff_toNat.1 digit).1
  have other : first.toNat ≠ 48 := fun same => nonzero (Char.toNat_inj.1 same)
  have some_ : 1 ≤ ofDigits [first] := by
    change 1 ≤ 0 * 10 + (first.toNat - 48)
    omega
  rw [← List.singleton_append, ofDigits_append]
  exact (Nat.le_mul_of_pos_left _ some_).trans (Nat.le_add_right _ _)

theorem trimmed_append_zeros (digits : List Char) :
    ∃ zeros, digits = (digits.reverse.dropWhile (· == '0')).reverse ++ List.replicate zeros '0' := by
  have parts := congrArg List.reverse
    (List.takeWhile_append_dropWhile (p := fun c : Char => c == '0') (l := digits.reverse))
  have same : (digits.reverse.takeWhile fun c => c == '0') =
      List.replicate (digits.reverse.takeWhile fun c => c == '0').length '0' :=
    List.eq_replicate_iff.2 ⟨rfl, fun c among => beq_iff_eq.1 (List.mem_takeWhile_imp (p := fun c => c == '0') among)⟩
  rw [List.reverse_append, List.reverse_reverse, same, List.reverse_replicate] at parts
  exact ⟨_, parts.symm⟩

/-- Digits without needless zeros at their end, and what they are worth. -/
theorem normalized_spec (x : Decimal) (some_ : x.coefficient ≠ 0) :
    Json.Digits x.normalized.1 ∧ x.normalized.1.head? ≠ some '0' ∧
      (ofDigits x.normalized.1 : ℚ) * 10 ^ (x.normalized.2 + 1 - x.normalized.1.length) =
        x.coefficient * 10 ^ x.exponent := by
  obtain ⟨c, rest, front, nonzero⟩ := toDigits_head x.coefficient (Nat.pos_of_ne_zero some_)
  have all (d : Char) (among : d ∈ Nat.toDigits 10 x.coefficient) : d.isDigit = true :=
    Nat.isDigit_of_mem_toDigits (by decide) (by decide) among
  have whole := ofDigits_toDigits x.coefficient
  obtain ⟨zeros, joined⟩ := trimmed_append_zeros (Nat.toDigits 10 x.coefficient)
  rw [normalized]
  simp only
  generalize ((Nat.toDigits 10 x.coefficient).reverse.dropWhile fun c => c == '0').reverse = kept at joined ⊢
  have first : ∃ more, kept = c :: more := by
    cases kept with
    | nil =>
      have zero : c ∈ List.replicate zeros '0' := by
        rw [← List.nil_append (List.replicate zeros '0'), ← joined, front]
        exact List.mem_cons_self
      exact absurd (List.eq_of_mem_replicate zero) nonzero
    | cons d more =>
      rw [front, List.cons_append] at joined
      exact ⟨more, by rw [(List.cons.inj joined).1]⟩
  obtain ⟨more, rfl⟩ := first
  have value : x.coefficient = ofDigits (c :: more) * 10 ^ zeros := by
    rw [← whole, joined, ofDigits_append, ofDigits_zeros, List.length_replicate, Nat.add_zero]
  have length : ((Nat.toDigits 10 x.coefficient).length : Int) = (c :: more).length + zeros := by
    rw [joined, List.length_append, List.length_replicate]
    push_cast
    rfl
  simp only [List.isEmpty_cons, Bool.false_eq_true, if_false]
  refine ⟨⟨List.cons_ne_nil _ _, fun d among => all d (by rw [joined]; exact List.mem_append_left _ among)⟩, ?_, ?_⟩
  · rintro ⟨⟩
    exact nonzero rfl
  · have place : x.exponent + ((Nat.toDigits 10 x.coefficient).length : Int) - 1 + 1 - (c :: more).length =
        zeros + x.exponent := by omega
    rw [place, zpow_add₀ (by norm_num), zpow_natCast, value, ← mul_assoc]
    push_cast
    rfl

end Decimal

/-! ### The sizes of numbers -/

namespace Json

namespace Numeral

def size (numeral : Numeral) : ℚ :=
  numeral.coefficient * 10 ^ (numeral.exponent.getD 0 - (numeral.fraction.getD []).length)

theorem kept_all (numeral : Numeral) (small : numeral.coefficient < 2 ^ 64) :
    numeral.Kept numeral.coefficient (numeral.exponent.getD 0 - (numeral.fraction.getD []).length) := by
  have kept := Kept.parts numeral.whole [] (numeral.fraction.getD []) [] (List.append_nil _).symm
    (List.append_nil _).symm small nofun nofun
  rwa [List.length_nil, Nat.cast_zero, add_zero] at kept

variable (numeral : Numeral) (short : Decimal.ofDigits numeral.whole < 2 ^ 64) (significand : Nat) (place : Int)
  (kept : numeral.Kept significand place)
include short kept

theorem kept_le : (significand : ℚ) * 10 ^ place ≤ numeral.size := by
  obtain ⟨whole, lost, fraction, left, before, behind, fits, full, -⟩ := kept
  have noneLost : lost = [] := by
    cases lost with
    | nil => rfl
    | cons digit lost =>
      have large := full digit rfl
      have more := Decimal.ofDigits_le (whole ++ [digit]) lost
      rw [← List.append_cons, ← before] at more
      omega
  subst noneLost
  rw [List.append_nil] at before
  rw [size, coefficient, before, behind, ← List.append_assoc, Decimal.ofDigits_append (whole ++ fraction),
    List.length_append, List.length_nil, Nat.cast_zero, add_zero]
  have split_ : numeral.exponent.getD 0 - (fraction.length : Int) =
      left.length + (numeral.exponent.getD 0 - ((fraction.length + left.length : Nat) : Int)) := by omega
  rw [split_, zpow_add₀ (by norm_num), zpow_natCast, ← mul_assoc]
  refine mul_le_mul_of_nonneg_right ?_ (by positivity)
  exact_mod_cast Nat.le_add_right _ _

theorem inRange_of_small (few : numeral.exponent.getD 0 < 2 ^ 31) (small : numeral.size < Double.safe) :
    numeral.InRange significand place := by
  have bound := (numeral.kept_le short significand place kept).trans_lt small
  have word : significand < 2 ^ 64 := by
    cases kept
    assumption
  refine ⟨Double.rounded_mul_lt _ _ ?_, fun _ => few⟩
  obtain ⟨places, rfl | rfl⟩ := Int.eq_nat_or_neg place
  · rw [Int.toNat_natCast]
    rw [zpow_natCast] at bound
    exact_mod_cast bound
  · rw [Int.toNat_neg_natCast, pow_zero, Nat.mul_one]
    exact word.trans_le Double.word_le_safe

end Numeral

/-! ### Layouts -/

/-- A text that is a number of so much size, with a point or an exponent, behind a minus sign or without one. It is
short before the point and in the exponent. -/
def Writes (text : List Char) (size : ℚ) : Prop :=
  ∀ negative : Bool, ∃ numeral : Numeral, numeral.Spells ((if negative then ['-'] else []) ++ text) ∧
    (∀ n, ¬ numeral.Integer n) ∧ numeral.size = size ∧ Decimal.ofDigits numeral.whole < 2 ^ 64 ∧
    numeral.exponent.getD 0 < 2 ^ 31

theorem spells_parts (negative : Bool) (whole : List Char) (proper : Digits whole)
    (zero : whole.head? = some '0' → whole = ['0']) (fraction : Option (List Char)) (point : List Char)
    (before : SpellsFraction fraction point) (exponent : Option Int) (mark : List Char)
    (behind : SpellsExponent exponent mark) :
    Numeral.Spells ⟨negative, whole, fraction, exponent⟩
      ((if negative then ['-'] else []) ++ (whole ++ (point ++ mark))) := by
  have spelled := @Numeral.Spells.parts ⟨negative, whole, fraction, exponent⟩ point mark proper zero before behind
  rwa [List.append_assoc, List.append_assoc] at spelled

theorem writes_point (whole fraction : List Char) (proper : Digits whole)
    (zero : whole.head? = some '0' → whole = ['0']) (proper' : Digits fraction)
    (short : Decimal.ofDigits whole < 2 ^ 64) :
    Writes (whole ++ '.' :: fraction) (Decimal.ofDigits (whole ++ fraction) * 10 ^ (-(fraction.length : Int))) := by
  intro negative
  have spelled := spells_parts negative whole proper zero (some fraction) _ (.some fraction proper') none [] .none
  rw [List.append_nil] at spelled
  refine ⟨_, spelled, fun n integer => absurd integer.whole.1 nofun, ?_, short, (by decide : (0 : Int) < 2 ^ 31)⟩
  rw [Numeral.size, Numeral.coefficient, Option.getD_some, Option.getD_none, zero_sub]

theorem digits_append (front back : List Char) (proper : Digits front) (all : ∀ c ∈ back, c.isDigit = true) :
    Digits (front ++ back) :=
  ⟨List.append_ne_nil_of_left_ne_nil proper.1 back, fun c among => (List.mem_append.1 among).elim (proper.2 c) (all c)⟩

theorem zeros_digits (count : Nat) : ∀ c ∈ List.replicate count '0', c.isDigit = true := by
  intro c among
  rw [List.eq_of_mem_replicate among]
  rfl

theorem toList_natText (n : Nat) : (toString n).toList = Nat.toDigits 10 n := by
  rw [Nat.toString_eq_ofList_toDigits, String.toList_ofList]

theorem digits_toDigits (n : Nat) : Digits (Nat.toDigits 10 n) :=
  ⟨Nat.toDigits_ne_nil, fun _ among => Nat.isDigit_of_mem_toDigits (by decide) (by decide) among⟩

def exponentText (place : Int) : String :=
  if place < 0 then "-" ++ toString place.natAbs else floatLayout.positiveSign ++ toString place.natAbs

theorem spells_exponentText (place : Int) : SpellsExponent (some place) ('e' :: (exponentText place).toList) := by
  have worth := Decimal.ofDigits_toDigits place.natAbs
  have proper := digits_toDigits place.natAbs
  rw [exponentText]
  split
  · next negative =>
    have same : place = -(Decimal.ofDigits (Nat.toDigits 10 place.natAbs) : Int) := by omega
    rw [String.toList_append, toList_natText]
    have spelled := SpellsExponent.minus 'e' _ List.mem_cons_self proper
    rw [← same] at spelled
    exact spelled
  · next positive =>
    have same : place = (Decimal.ofDigits (Nat.toDigits 10 place.natAbs) : Int) := by omega
    rw [String.toList_append, toList_natText]
    have spelled := SpellsExponent.plus 'e' _ List.mem_cons_self proper
    rw [← same] at spelled
    exact spelled

section

variable (digits : List Char) (place : Int) (proper : Digits digits)
include proper

theorem writes_zeros_before (small : place < 0) : Writes (floatLayout.positional digits place).toList
    (Decimal.ofDigits digits * 10 ^ (place + 1 - digits.length)) := by
  obtain ⟨zeros, count, same⟩ : ∃ zeros : Nat, (-place - 1).toNat = zeros ∧ place = -(zeros : Int) - 1 :=
    ⟨(-place - 1).toNat, rfl, by omega⟩
  have fraction : Digits (List.replicate zeros '0' ++ digits) :=
    ⟨List.append_ne_nil_of_right_ne_nil _ proper.1,
      fun c among => (List.mem_append.1 among).elim (zeros_digits zeros c) (proper.2 c)⟩
  have writes := writes_point ['0'] _ ⟨List.cons_ne_nil _ _, by simp⟩ (fun _ => rfl) fraction
    (by decide)
  have worth : Decimal.ofDigits (['0'] ++ (List.replicate zeros '0' ++ digits)) = Decimal.ofDigits digits := by
    rw [Decimal.ofDigits_append, Decimal.ofDigits_append, Decimal.ofDigits_zeros]
    simp [Decimal.ofDigits, Decimal.digitValue]
  have exponent : -(zeros : Int) - 1 + 1 - digits.length = -((zeros + digits.length : Nat) : Int) := by omega
  rw [worth, List.length_append, List.length_replicate] at writes
  rw [Decimal.Layout.positional, if_pos small, count, String.toList_append, String.toList_ofList,
    String.toList_ofList, same, exponent]
  exact writes

variable (front : digits.head? ≠ some '0')
include front

theorem writes_zeros_behind (count : Nat) (few : count < 16) (long : digits.length ≤ count + 1) :
    Writes (floatLayout.positional digits count).toList
      (Decimal.ofDigits digits * 10 ^ ((count : Int) + 1 - digits.length)) := by
  obtain ⟨zeros, more⟩ : ∃ zeros, count + 1 = digits.length + zeros := ⟨count + 1 - digits.length, by omega⟩
  have rest : count + 1 - digits.length = zeros := by omega
  have head : (digits ++ List.replicate zeros '0').head? = digits.head? := by
    rw [List.head?_append_of_ne_nil _ proper.1]
  have whole := digits_append digits _ proper (zeros_digits zeros)
  have writes := writes_point (digits ++ List.replicate zeros '0') ['0'] whole
    (fun zero => absurd (head.symm.trans zero) front) ⟨List.cons_ne_nil _ _, by simp⟩
    (Decimal.ofDigits_lt_word _ whole.2 (by rw [List.length_append, List.length_replicate]; omega))
  have worth : (Decimal.ofDigits (digits ++ List.replicate zeros '0' ++ ['0']) : ℚ) * 10 ^ (-(['0'].length : Int)) =
      Decimal.ofDigits digits * 10 ^ (zeros : Int) := by
    rw [Decimal.ofDigits_append, Decimal.ofDigits_append, Decimal.ofDigits_zeros,
      List.length_replicate, zpow_natCast]
    simp [Decimal.ofDigits, Decimal.digitValue]
  have exponent : (count : Int) + 1 - digits.length = zeros := by omega
  rw [Decimal.Layout.positional, if_neg (Int.not_lt.2 (Int.natCast_nonneg count)), Int.toNat_natCast]
  simp only
  rw [if_pos long, rest, String.toList_append, String.toList_ofList, exponent, ← worth]
  exact writes

theorem writes_cut (count : Nat) (few : count < 16) (short : ¬ digits.length ≤ count + 1) :
    Writes (floatLayout.positional digits count).toList
      (Decimal.ofDigits digits * 10 ^ ((count : Int) + 1 - digits.length)) := by
  have cut := List.take_append_drop (count + 1) digits
  have fraction : digits.drop (count + 1) ≠ [] := by
    rw [Ne, List.drop_eq_nil_iff]
    omega
  have whole : Digits (digits.take (count + 1)) := by
    refine ⟨?_, fun c among => proper.2 c (List.mem_of_mem_take among)⟩
    rw [Ne, List.take_eq_nil_iff]
    rintro (no | no)
    · omega
    · exact proper.1 no
  have head : (digits.take (count + 1)).head? = digits.head? := by
    rw [List.head?_take, if_neg (Nat.succ_ne_zero _)]
  have writes := writes_point (digits.take (count + 1)) (digits.drop (count + 1)) whole
    (fun zero => absurd (head.symm.trans zero) front)
    ⟨fraction, fun c among => proper.2 c (List.mem_of_mem_drop among)⟩
    (Decimal.ofDigits_lt_word _ whole.2 (by rw [List.length_take]; omega))
  rw [cut, List.length_drop] at writes
  have exponent : (count : Int) + 1 - digits.length = -((digits.length - (count + 1) : Nat) : Int) := by omega
  rw [Decimal.Layout.positional, if_neg (Int.not_lt.2 (Int.natCast_nonneg count)), Int.toNat_natCast]
  simp only
  rw [if_neg short, String.toList_append, String.toList_append, String.toList_ofList, String.toList_ofList,
    String.toList_ofList, exponent, List.append_assoc]
  exact writes

theorem writes_positional (few : place < 16) : Writes (floatLayout.positional digits place).toList
    (Decimal.ofDigits digits * 10 ^ (place + 1 - digits.length)) := by
  by_cases small : place < 0
  · exact writes_zeros_before digits place proper small
  obtain ⟨count, rfl⟩ := Int.eq_ofNat_of_zero_le (Int.not_lt.1 small)
  by_cases long : digits.length ≤ count + 1
  · exact writes_zeros_behind digits proper front count (by omega) long
  · exact writes_cut digits proper front count (by omega) long

theorem spells_scientific (negative : Bool) : ∃ first more fraction, digits = first :: more ∧
    fraction.getD [] = more ∧ Numeral.Spells ⟨negative, [first], fraction, some place⟩
      ((if negative then ['-'] else []) ++ (floatLayout.scientific digits place).toList) := by
  have spelled := spells_exponentText place
  obtain ⟨first, more, rfl⟩ := List.exists_cons_of_ne_nil proper.1
  have one : Digits [first] :=
    ⟨List.cons_ne_nil _ _, fun c among => proper.2 c (by rw [List.mem_singleton.1 among]; exact List.mem_cons_self)⟩
  have zero : [first].head? = some '0' → [first] = ['0'] := fun same => absurd same front
  cases more with
  | nil =>
    refine ⟨first, [], none, rfl, rfl, ?_⟩
    rw [Decimal.Layout.scientific, ← exponentText, String.toList_append, String.toList_append,
      String.toList_singleton]
    exact spells_parts negative [first] one zero none [] .none (some place) _ spelled
  | cons second more =>
    have behind : Digits (second :: more) :=
      ⟨List.cons_ne_nil _ _, fun c among => proper.2 c (List.mem_cons_of_mem _ among)⟩
    refine ⟨first, second :: more, some (second :: more), rfl, rfl, ?_⟩
    rw [Decimal.Layout.scientific, ← exponentText, String.toList_append, String.toList_append, String.toList_append,
      String.toList_append, String.toList_singleton]
    · simp only [List.append_assoc, String.toList_ofList]
      exact spells_parts negative [first] one zero (some (second :: more)) _ (.some _ behind) (some place) _ spelled
    · rintro ⟨⟩

theorem writes_scientific (few : place < 2 ^ 31) : Writes (floatLayout.scientific digits place).toList
    (Decimal.ofDigits digits * 10 ^ (place + 1 - digits.length)) := by
  intro negative
  obtain ⟨first, more, fraction, rfl, rest, spelled⟩ := spells_scientific digits place proper front negative
  have one : ∀ c ∈ [first], c.isDigit = true := fun c among =>
    proper.2 c (by rw [List.mem_singleton.1 among]; exact List.mem_cons_self)
  refine ⟨_, spelled, fun n integer => absurd integer.whole.2 nofun, ?_, Decimal.ofDigits_lt_word _ one (by simp), few⟩
  rw [Numeral.size, Numeral.coefficient, rest, List.singleton_append, Option.getD_some, List.length_cons]
  congr 2
  push_cast
  ring

theorem place_lt (places : Nat) (small : (Decimal.ofDigits digits : ℚ) * 10 ^ (place + 1 - digits.length) < (2 ^ places : Nat)) :
    place < places := by
  obtain ⟨first, more, rfl⟩ := List.exists_cons_of_ne_nil proper.1
  have least := Decimal.le_ofDigits first more (proper.2 first List.mem_cons_self) fun zero => front (zero ▸ rfl)
  by_contra beyond
  refine absurd small (not_lt.2 ?_)
  rw [Nat.cast_pow, Nat.cast_ofNat]
  have split_ : (places : Int) ≤ more.length + (place + 1 - ((first :: more).length : Int)) := by
    rw [List.length_cons]
    omega
  calc (2 : ℚ) ^ places ≤ 10 ^ places := pow_le_pow_left₀ (by norm_num) (by norm_num) places
    _ ≤ 10 ^ ((more.length : Int) + (place + 1 - ((first :: more).length : Int))) := by
      rw [← zpow_natCast]
      exact zpow_le_zpow_right₀ (by norm_num) split_
    _ = 10 ^ more.length * 10 ^ (place + 1 - ((first :: more).length : Int)) := by
      rw [zpow_add₀ (by norm_num), zpow_natCast]
    _ ≤ Decimal.ofDigits (first :: more) * 10 ^ (place + 1 - ((first :: more).length : Int)) :=
      mul_le_mul_of_nonneg_right (by exact_mod_cast least) (by positivity)

end

theorem spellsFloat_of_writes (text : List Char) (size : ℚ) (writes : Writes text size) (small : size < Double.safe)
    (negative : Bool) : ∃ x, SpellsFloat x ((if negative then ['-'] else []) ++ text) := by
  obtain ⟨numeral, spelled, other, rfl, short, few⟩ := writes negative
  obtain ⟨significand, place, kept⟩ := numeral.exists_kept
  exact ⟨_, numeral, significand, place, spelled, other, kept,
    numeral.inRange_of_small short significand place kept few small, rfl⟩

theorem toList_sign (negative : Bool) (text : String) :
    ((if negative then "-" else "") ++ text).toList = (if negative then ['-'] else []) ++ text.toList := by
  cases negative <;> simp

/-- Whether two numbers near the end of the range are in it is for their leading digits to say. -/
theorem product_iff (m n : Nat) (long : m.log2 = 1 + 52) (long' : n.log2 = 918 + 52) :
    Double.rounded m * Double.rounded n < Double.limit ↔
      Double.leading m * Double.leading n < (2 ^ 54 - 1) * 2 ^ 51 := by
  have units (places most : Nat) (all : most = 51 + (1 + places)) :
      (Double.leading m : ℚ) * 2 ^ 1 * (Double.leading n * 2 ^ places) < ((2 ^ 54 - 1) * 2 ^ most : Nat) ↔
        Double.leading m * Double.leading n < (2 ^ 54 - 1) * 2 ^ 51 := by
    rw [← Nat.mul_lt_mul_right (Nat.two_pow_pos (1 + places)), Nat.mul_assoc _ (2 ^ 51), ← pow_add, ← all, pow_add,
      ← Nat.mul_mul_mul_comm]
    exact_mod_cast Iff.rfl
  rw [Double.rounded_of_long _ _ long, Double.rounded_of_long _ _ long', Double.limit]
  exact units 918 970 rfl

/-- Of the largest three doubles, the digits and the power of ten are rounded down enough. -/
theorem product_largest (k : Nat) (few : k < 3) :
    Double.rounded (17976931348623153 + 2 * k) * Double.rounded (10 ^ (292 : Int).toNat) < Double.limit := by
  have each : ∀ k < 3, (17976931348623153 + 2 * k).log2 = 1 + 52 ∧
      Double.leading (17976931348623153 + 2 * k) * Double.leading (10 ^ (292 : Int).toNat) < (2 ^ 54 - 1) * 2 ^ 51 := by
    decide +kernel
  exact (product_iff _ _ (each k few).1 (by decide +kernel)).2 (each k few).2

/-- The largest three doubles are too large if rounding enlarges their digits and the power of ten by so much as it can;
but it does not. -/
theorem spells_largest (k : Nat) (few : k < 3) (negative : Bool) : ∃ x, SpellsFloat x
    ((if negative then ['-'] else []) ++
      (floatLayout.scientific (Nat.toDigits 10 (17976931348623153 + 2 * k)) 308).toList) := by
  have shape : ∀ k < 3, (Nat.toDigits 10 (17976931348623153 + 2 * k)).head? ≠ some '0' ∧
      (Nat.toDigits 10 (17976931348623153 + 2 * k)).length = 17 := by decide +kernel
  have whole := Decimal.ofDigits_toDigits (17976931348623153 + 2 * k)
  obtain ⟨front, length⟩ := shape k few
  obtain ⟨first, more, fraction, cut, behind, spelled⟩ := spells_scientific _ 308 (digits_toDigits _) front negative
  have all : Numeral.coefficient ⟨negative, [first], fraction, some 308⟩ = 17976931348623153 + 2 * k := by
    rw [Numeral.coefficient, behind, List.singleton_append, ← cut, whole]
  have kept := Numeral.kept_all ⟨negative, [first], fraction, some 308⟩ (by omega)
  have place : (308 : Int) - more.length = 292 := by
    rw [cut, List.length_cons] at length
    omega
  rw [all, behind, Option.getD_some, place] at kept
  exact ⟨_, _, _, _, spelled, fun n integer => absurd integer.whole.2 nofun, kept,
    ⟨product_largest k few, fun _ => (by decide : (308 : Int) < 2 ^ 31)⟩, rfl⟩

/-- The text of a finite number is a number again, of the doubles. -/
theorem spells_floatText (x : Float) (finite : x.isFinite = true) : ∃ y, SpellsFloat y (floatText x).toList := by
  obtain ⟨⟨significand, exponent, boundary⟩, decoded, short, least, most⟩ := Double.ofBits?_of_finite x finite
  rw [floatText, if_pos finite, Decimal.Layout.write]
  simp only [decoded]
  cases significand with
  | zero =>
    have zero : Digits ['0'] := ⟨List.cons_ne_nil _ _, zeros_digits 1⟩
    have writes := writes_point ['0'] ['0'] zero (fun _ => rfl) zero (by decide)
    have worth : Decimal.ofDigits (['0'] ++ ['0']) = 0 := rfl
    rw [worth, Nat.cast_zero, zero_mul] at writes
    change ∃ y, SpellsFloat y (((if x.toBits >>> 63 == 1 then "-" else "") ++ "0" ++ ".0").toList)
    rw [String.append_assoc, toList_sign]
    have positive : 0 < Double.safe := (Nat.two_pow_pos 64).trans_le Double.word_le_safe
    exact spellsFloat_of_writes _ 0 writes (Nat.cast_pos.2 positive) _
  | succ significand =>
    simp only
    rw [toList_sign]
    by_cases largest : exponent = 971 ∧ 2 ^ 53 - 3 ≤ significand + 1
    · obtain ⟨rfl, large⟩ := largest
      obtain ⟨k, same⟩ := Nat.exists_eq_add_of_le large
      have few : k < 3 := by
        change significand + 1 < 2 ^ 53 at short
        omega
      rw [same, Binary.shortest_largest boundary k few]
      exact spells_largest k few _
    · obtain ⟨some_, bound⟩ := Binary.shortest_bounds ⟨significand + 1, exponent, boundary⟩
        (Nat.succ_ne_zero significand) short least most
      have end_ := Binary.end_lt_safe ⟨significand + 1, exponent, boundary⟩ short most fun top =>
        Nat.not_le.1 fun large => largest ⟨top, large⟩
      obtain ⟨proper, front, worth⟩ := Decimal.normalized_spec _ some_
      have small := worth.trans_le bound |>.trans_lt end_
      generalize (Binary.shortest ⟨significand + 1, exponent, boundary⟩).normalized = written at proper front small ⊢
      obtain ⟨digits, place⟩ := written
      have places := place_lt digits place proper front 1024 (small.trans_le (Nat.cast_le.2 Double.safe_le_power))
      refine spellsFloat_of_writes _ _ ?_ small _
      split
      · next within =>
        rw [Bool.and_eq_true, decide_eq_true_eq, decide_eq_true_eq] at within
        exact writes_positional digits place proper front within.2
      · exact writes_scientific digits place proper front (by omega)

end Json

end ScriptSandbox
