import Mathlib
import ScriptSandbox.Decimal.Whole

/-!
What doubles are exactly. The bits of a double are a field for the exponent and a fraction; the double
nearest to a whole number has them by construction, so it is decoded without rounding again.
-/

namespace ScriptSandbox.Double

/-! ### The bits of a double -/

def field (bits : UInt64) : Nat := bits.toNat / 0x10000000000000 % 0x800

def fraction (bits : UInt64) : Nat := bits.toNat % 0x10000000000000

theorem ofBits?_eq (bits : UInt64) :
    Binary.ofBits? bits =
      if field bits = 0x7FF then none
      else if field bits = 0 then some ⟨fraction bits, -1074, false⟩
      else some ⟨0x10000000000000 + fraction bits, (field bits : Int) - 1075,
        fraction bits == 0 && 1 < field bits⟩ := by
  have exponent : (bits >>> 52 &&& 0x7FF).toNat = field bits := by
    rw [UInt64.toNat_and, UInt64.toNat_shiftRight]
    change bits.toNat >>> 52 &&& (2 ^ 11 - 1) = field bits
    rw [Nat.and_two_pow_sub_one_eq_mod, Nat.shiftRight_eq_div_pow]
    rfl
  have rest : (bits &&& 0xFFFFFFFFFFFFF).toNat = fraction bits := by
    rw [UInt64.toNat_and]
    change bits.toNat &&& (2 ^ 52 - 1) = fraction bits
    rw [Nat.and_two_pow_sub_one_eq_mod]
    rfl
  rw [Binary.ofBits?, exponent, rest]

theorem ofBits?_normal (bits : UInt64) (significand : Nat) (exponent : Int) (normal : 0 < field bits)
    (finite : field bits < 0x7FF) (front : 0x10000000000000 + fraction bits = significand)
    (place : (field bits : Int) - 1075 = exponent) :
    ∃ boundary, Binary.ofBits? bits = some ⟨significand, exponent, boundary⟩ := by
  subst front place
  have notFull : ¬field bits = 0x7FF := by omega
  have notEmpty : ¬field bits = 0 := by omega
  exact ⟨_, (ofBits?_eq bits).trans ((if_neg notFull).trans (if_neg notEmpty))⟩

theorem toNat_unpackExponent (bits : UInt64) :
    (@Float.Model.UnpackedFloat.unpackExponent .binary64 bits.toBitVec).toNat = field bits := by
  rw [Float.Model.UnpackedFloat.unpackExponent, BitVec.toNat_cast, BitVec.extractLsb_toNat,
    Nat.shiftRight_eq_div_pow]
  rfl

theorem toNat_unpackMantissa (bits : UInt64) :
    (@Float.Model.UnpackedFloat.unpackMantissa .binary64 bits.toBitVec).toNat = fraction bits := by
  rw [Float.Model.UnpackedFloat.unpackMantissa, BitVec.toNat_cast, BitVec.extractLsb_toNat,
    Nat.shiftRight_zero]
  rfl

theorem toBits_ofBits (bits : UInt64) (proper : field bits ≠ 0x7FF ∨ fraction bits = 0) :
    (Float.ofBits bits).toBits = bits := by
  have exponent := toNat_unpackExponent bits
  have rest := toNat_unpackMantissa bits
  have valid : Float.Model.Format.binary64.Valid bits.toBitVec := by
    refine ⟨fun full some => ?_⟩
    obtain finite | empty := proper
    · rw [full] at exponent
      exact absurd exponent.symm finite
    · rw [empty] at rest
      exact absurd (BitVec.eq_of_toNat_eq rest) some
  exact congrArg UInt64.ofBitVec (Float.Model.UnpackedFloat.pack_unpack_of_valid valid)

/-! ### The double nearest to a whole number -/

def leading (n : Nat) : Nat := if n.log2 ≤ 52 then n * Nat.pow 2 (52 - n.log2) else dropped n (n.log2 - 52)

theorem dropped_bounds (n places : Nat) : n / 2 ^ places ≤ dropped n places ∧ dropped n places ≤ n / 2 ^ places + 1 := by
  change n / Nat.pow 2 places ≤ dropped n places ∧ dropped n places ≤ n / Nat.pow 2 places + 1
  unfold dropped
  simp only
  split <;> omega

theorem leading_bounds (n : Nat) (positive : n ≠ 0) : 2 ^ 52 ≤ leading n ∧ leading n ≤ 2 ^ 53 := by
  have low := Nat.log2_self_le positive
  have high := @Nat.lt_log2_self n
  rw [leading]
  by_cases small : n.log2 ≤ 52
  · rw [if_pos small]
    have scaled : 2 ^ n.log2 * 2 ^ (52 - n.log2) = 2 ^ 52 := by rw [← Nat.pow_add, Nat.add_sub_cancel' small]
    have more : 2 ^ (n.log2 + 1) * 2 ^ (52 - n.log2) = 2 ^ 53 := by
      rw [← Nat.pow_add]
      congr 1
      omega
    have least := Nat.mul_le_mul_right (2 ^ (52 - n.log2)) low
    have greatest := Nat.mul_le_mul_right (2 ^ (52 - n.log2)) high.le
    rw [scaled] at least
    rw [more] at greatest
    exact ⟨least, greatest⟩
  · rw [if_neg small]
    have bounds := dropped_bounds n (n.log2 - 52)
    have scaled : 2 ^ n.log2 = 2 ^ 52 * 2 ^ (n.log2 - 52) := by
      rw [← Nat.pow_add]
      congr 1
      omega
    have more : 2 ^ (n.log2 + 1) = 2 ^ 53 * 2 ^ (n.log2 - 52) := by
      rw [← Nat.pow_add]
      congr 1
      omega
    have least : 2 ^ 52 ≤ n / 2 ^ (n.log2 - 52) := by
      rw [Nat.le_div_iff_mul_le (Nat.two_pow_pos _), ← scaled]
      exact low
    have greatest : n / 2 ^ (n.log2 - 52) < 2 ^ 53 := by
      rw [Nat.div_lt_iff_lt_mul (Nat.two_pow_pos _), ← more]
      exact high
    omega

theorem bitsOf_eq (n : Nat) (positive : n ≠ 0) :
    bitsOf n = min ((n.log2 + 1022) * 0x10000000000000 + leading n) infinityBits := if_neg positive

theorem bitsOf_le (n : Nat) : bitsOf n ≤ infinityBits := by
  by_cases positive : n = 0
  · rw [positive]
    decide
  · rw [bitsOf_eq n positive]
    exact Nat.min_le_right _ _

theorem toBits_ofInt (n : Int) :
    (ofInt n).toBits.toNat = bitsOf n.natAbs + if n < 0 then 0x8000000000000000 else 0 := by
  have bound := bitsOf_le n.natAbs
  have fits : bitsOf n.natAbs + (if n < 0 then 0x8000000000000000 else 0) < 0x10000000000000000 := by
    unfold infinityBits at bound
    split <;> omega
  have same := UInt64.toNat_ofNat_of_lt' fits
  have proper : field (UInt64.ofNat (bitsOf n.natAbs + if n < 0 then 0x8000000000000000 else 0)) ≠ 0x7FF ∨
      fraction (UInt64.ofNat (bitsOf n.natAbs + if n < 0 then 0x8000000000000000 else 0)) = 0 := by
    unfold field fraction
    rw [same]
    unfold infinityBits at bound
    split <;> omega
  rw [ofInt, toBits_ofBits _ proper, same]

theorem long_of_infinite (n : Nat) (infinite : bitsOf n = infinityBits) : 1022 ≤ n.log2 := by
  by_cases positive : n = 0
  · rw [positive] at infinite
    exact absurd infinite (by decide)
  · have most := (leading_bounds n positive).2
    rw [bitsOf_eq n positive] at infinite
    unfold infinityBits at infinite
    omega

/-- The double nearest to a number has the leading places of the number for its significand, unless these are
one digit longer than there is room for. -/
theorem ofBits?_ofInt (n : Int) (nonzero : n ≠ 0) :
    (bitsOf n.natAbs = infinityBits ∧ Binary.ofBits? (ofInt n).toBits = none) ∨
    (leading n.natAbs < 2 ^ 53 ∧ ∃ boundary, Binary.ofBits? (ofInt n).toBits =
      some ⟨leading n.natAbs, (n.natAbs.log2 : Int) - 52, boundary⟩) ∨
    (leading n.natAbs = 2 ^ 53 ∧ ∃ boundary, Binary.ofBits? (ofInt n).toBits =
      some ⟨2 ^ 52, (n.natAbs.log2 : Int) - 51, boundary⟩) := by
  have positive : n.natAbs ≠ 0 := by omega
  obtain ⟨low, high⟩ := leading_bounds n.natAbs positive
  have bits := toBits_ofInt n
  rw [bitsOf_eq _ positive] at bits ⊢
  have exponent : field (ofInt n).toBits = (ofInt n).toBits.toNat / 0x10000000000000 % 0x800 := rfl
  have rest : fraction (ofInt n).toBits = (ofInt n).toBits.toNat % 0x10000000000000 := rfl
  unfold infinityBits at bits ⊢
  generalize (ofInt n).toBits = written at *
  generalize n.natAbs.log2 = length at *
  generalize leading n.natAbs = front at *
  by_cases large : 0x7FF0000000000000 ≤ (length + 1022) * 0x10000000000000 + front
  · have full : field written = 0x7FF := by
      rw [exponent, bits]
      split <;> omega
    exact .inl ⟨by omega, (ofBits?_eq written).trans (if_pos full)⟩
  by_cases fits : front < 2 ^ 53
  · have placed : field written = length + 1023 := by
      rw [exponent, bits]
      split <;> omega
    have left : 0x10000000000000 + fraction written = front := by
      rw [rest, bits]
      split <;> omega
    exact .inr (.inl ⟨fits, ofBits?_normal written front _ (by omega) (by omega) left (by omega)⟩)
  · have placed : field written = length + 1024 := by
      rw [exponent, bits]
      split <;> omega
    have left : 0x10000000000000 + fraction written = 2 ^ 52 := by
      rw [rest, bits]
      split <;> omega
    exact .inr (.inr ⟨by omega, ofBits?_normal written _ _ (by omega) (by omega) left (by omega)⟩)

theorem ofBits?_ofInt_short (n : Int) (nonzero : n ≠ 0) (short : n.natAbs < 2 ^ 53) :
    ∃ boundary, Binary.ofBits? (ofInt n).toBits =
      some ⟨n.natAbs * 2 ^ (52 - n.natAbs.log2), (n.natAbs.log2 : Int) - 52, boundary⟩ ∧ n.natAbs.log2 ≤ 52 := by
  have positive : n.natAbs ≠ 0 := by omega
  have small : n.natAbs.log2 ≤ 52 := Nat.le_of_lt_succ ((Nat.log2_lt positive).2 short)
  have front : leading n.natAbs = n.natAbs * 2 ^ (52 - n.natAbs.log2) := if_pos small
  have room : leading n.natAbs < 2 ^ 53 := by
    have scaled : 2 ^ (n.natAbs.log2 + 1) * 2 ^ (52 - n.natAbs.log2) = 2 ^ 53 := by
      rw [← Nat.pow_add]
      congr 1
      omega
    rw [front, ← scaled]
    exact Nat.mul_lt_mul_of_pos_right Nat.lt_log2_self (Nat.two_pow_pos _)
  obtain ⟨infinite, -⟩ | ⟨-, boundary, decoded⟩ | ⟨full, -⟩ := ofBits?_ofInt n nonzero
  · have long := long_of_infinite _ infinite
    omega
  · exact ⟨boundary, front ▸ decoded, small⟩
  · omega

theorem isNegative_ofInt (n : Int) : isNegative (ofInt n) = decide (n < 0) := by
  have bits := toBits_ofInt n
  have bound := bitsOf_le n.natAbs
  unfold infinityBits at bound
  rw [isNegative]
  congr 1
  rw [UInt64.le_iff_toNat_le, bits, eq_iff_iff]
  change 0x8000000000000000 ≤ _ ↔ _
  split <;> omega

theorem size?_of_large (significand exponent : Nat) (boundary : Bool) :
    size? ⟨significand, (exponent : Int), boundary⟩ = some (significand * 2 ^ exponent) :=
  if_pos (Int.natCast_nonneg exponent)

theorem size?_of_small (significand places : Nat) (boundary : Bool) (some_ : 0 < places) :
    size? ⟨significand, -(places : Int), boundary⟩ =
      if significand % 2 ^ places = 0 then some (significand / 2 ^ places) else none := by
  have negative : ¬(0 : Int) ≤ -(places : Int) := by omega
  have power : (- -(places : Int)).toNat = places := by omega
  change (if (0 : Int) ≤ -(places : Int) then _ else if significand % Nat.pow 2 (- -(places : Int)).toNat = 0 then
    some (significand / Nat.pow 2 (- -(places : Int)).toNat) else none) = _
  rw [if_neg negative, power]
  rfl

theorem size?_scaled (n places : Nat) (boundary : Bool) (bound : places ≤ 52) :
    size? ⟨n * 2 ^ (52 - places), (places : Int) - 52, boundary⟩ = some n := by
  have place : (places : Int) - 52 = -((52 - places : Nat) : Int) := by omega
  rw [place]
  generalize 52 - places = unit
  cases unit with
  | zero => exact (size?_of_large (n * 1) 0 boundary).trans (by rw [Nat.pow_zero, Nat.mul_one, Nat.mul_one])
  | succ unit =>
    rw [size?_of_small _ (unit + 1) boundary (Nat.succ_pos unit), if_pos (Nat.mul_mod_left _ _),
      Nat.mul_div_cancel n (Nat.two_pow_pos _)]

theorem whole?_eq (x : Float) (binary : Binary) (decoded : Binary.ofBits? x.toBits = some binary) :
    whole? x = (size? binary).map fun size : Nat => if isNegative x then -(size : Int) else size := by
  cases size : size? binary with
  | none => simp only [whole?, decoded, size, Option.map_none]
  | some n => simp only [whole?, decoded, size, Option.map_some]

theorem significand_of_zero (binary : Binary) (zero : size? binary = some 0) : binary.significand = 0 := by
  rw [size?] at zero
  by_cases large : 0 ≤ binary.exponent
  · rw [if_pos large] at zero
    have power : 0 < Nat.pow 2 binary.exponent.toNat := Nat.pow_pos (by decide)
    exact (Nat.mul_eq_zero.1 (Option.some.inj zero)).resolve_right (Nat.ne_of_gt power)
  · rw [if_neg large] at zero
    by_cases even : binary.significand % Nat.pow 2 (-binary.exponent).toNat = 0
    · have none_ := Option.some.inj ((if_pos even).symm.trans zero)
      rw [← Nat.div_add_mod binary.significand (Nat.pow 2 (-binary.exponent).toNat), none_, even, Nat.mul_zero]
    · exact absurd ((if_neg even).symm.trans zero) nofun

theorem isNegative_of_zero (x : Float) (zero : whole? x = some 0) : (x.toBits != 0) = isNegative x := by
  have parts : field x.toBits = 0 ∧ fraction x.toBits = 0 := by
    cases decoded : Binary.ofBits? x.toBits with
    | none =>
      rw [whole?, decoded] at zero
      cases zero
    | some binary =>
      rw [whole?_eq x binary decoded] at zero
      obtain ⟨size, measured, same⟩ := Option.map_eq_some_iff.1 zero
      have none_ : size = 0 := by split at same <;> omega
      have significand := significand_of_zero binary (none_ ▸ measured)
      rw [ofBits?_eq] at decoded
      by_cases full : field x.toBits = 0x7FF
      · rw [if_pos full] at decoded
        cases decoded
      · rw [if_neg full] at decoded
        by_cases empty : field x.toBits = 0
        · rw [if_pos empty] at decoded
          rw [← Option.some.inj decoded] at significand
          exact ⟨empty, significand⟩
        · rw [if_neg empty] at decoded
          rw [← Option.some.inj decoded] at significand
          exact absurd significand (Nat.ne_of_gt (Nat.add_pos_left (by decide) _))
  obtain ⟨exponent, rest⟩ := parts
  have bound := x.toBits.toNat_lt
  unfold field at exponent
  unfold fraction at rest
  have bits : x.toBits.toNat = 0 ∨ x.toBits.toNat = 0x8000000000000000 := by omega
  obtain positive | negative := bits
  · have same : x.toBits = 0 := UInt64.toNat_inj.1 positive
    rw [isNegative, same]
    rfl
  · have same : x.toBits = 0x8000000000000000 := UInt64.toNat_inj.1 negative
    rw [isNegative, same]
    rfl

theorem bits_zero : (ofInt 0).toBits = 0 := by
  have bits := toBits_ofInt 0
  exact UInt64.toNat_inj.1 bits

theorem whole?_ofInt_short (n : Int) (short : n.natAbs < 2 ^ 53) : whole? (ofInt n) = some n := by
  by_cases zero : n = 0
  · subst zero
    have decoded : Binary.ofBits? (ofInt 0).toBits = some ⟨0, -1074, false⟩ := by
      rw [bits_zero]
      decide
    have size : size? ⟨0, -1074, false⟩ = some 0 :=
      (size?_of_small 0 1074 false (by decide)).trans (by rw [Nat.zero_mod, if_pos rfl, Nat.zero_div])
    rw [whole?_eq _ _ decoded, size]
    exact congrArg some (ite_self _)
  obtain ⟨boundary, decoded, small⟩ := ofBits?_ofInt_short n zero short
  rw [whole?_eq _ _ decoded, size?_scaled _ _ _ small, Option.map_some, isNegative_ofInt]
  by_cases negative : n < 0
  · rw [if_pos (decide_eq_true negative), Int.ofNat_natAbs_of_nonpos negative.le, neg_neg]
  · rw [if_neg (by rw [decide_eq_false negative]; nofun), Int.natAbs_of_nonneg (not_lt.1 negative)]

theorem whole?_ofInt_long (n k : Int) (long : 2 ^ 53 ≤ n.natAbs) (whole : whole? (ofInt n) = some k) :
    2 ^ 53 ≤ k.natAbs := by
  have positive : n.natAbs ≠ 0 := by omega
  have large : 53 ≤ n.natAbs.log2 := (Nat.le_log2 positive).2 long
  obtain ⟨low, -⟩ := leading_bounds n.natAbs positive
  -- The last place of the significand is worth two at least.
  have far (significand exponent : Nat) (boundary : Bool) (full : 2 ^ 52 ≤ significand) (some_ : 0 < exponent)
      (decoded : Binary.ofBits? (ofInt n).toBits = some ⟨significand, (exponent : Int), boundary⟩) :
      2 ^ 53 ≤ k.natAbs := by
    rw [whole?_eq _ _ decoded, size?_of_large, Option.map_some] at whole
    have same : k.natAbs = significand * 2 ^ exponent := by
      rw [← Option.some.inj whole]
      split <;> omega
    have double : 2 ^ 1 ≤ 2 ^ exponent := Nat.pow_le_pow_right (by decide) some_
    rw [same]
    exact Nat.mul_le_mul full double
  obtain ⟨-, decoded⟩ | ⟨-, boundary, decoded⟩ | ⟨-, boundary, decoded⟩ := ofBits?_ofInt n (by omega)
  · rw [whole?, decoded] at whole
    cases whole
  · have place : (n.natAbs.log2 : Int) - 52 = ((n.natAbs.log2 - 52 : Nat) : Int) := by omega
    rw [place] at decoded
    exact far _ _ boundary low (by omega) decoded
  · have place : (n.natAbs.log2 : Int) - 51 = ((n.natAbs.log2 - 51 : Nat) : Int) := by omega
    rw [place] at decoded
    exact far _ _ boundary (Nat.le_refl _) (by omega) decoded

/-! ### Exact values -/

def magnitude (binary : Binary) : ℚ := binary.significand * 2 ^ binary.exponent

/-- The number that a double is exactly, if it is finite. -/
def value? (x : Float) : Option ℚ :=
  (Binary.ofBits? x.toBits).map fun binary => if isNegative x then -magnitude binary else magnitude binary

theorem magnitude_nonneg (binary : Binary) : 0 ≤ magnitude binary := by
  unfold magnitude
  positivity

theorem size?_iff (binary : Binary) (size : Nat) : size? binary = some size ↔ magnitude binary = size := by
  obtain ⟨significand, exponent, boundary⟩ := binary
  change _ ↔ (significand : ℚ) * 2 ^ exponent = size
  obtain ⟨places, rfl | rfl⟩ := Int.eq_nat_or_neg exponent
  · rw [size?_of_large, Option.some.injEq, zpow_natCast]
    norm_cast
  · obtain rfl | some_ := Nat.eq_zero_or_pos places
    · change size? ⟨significand, ((0 : Nat) : Int), boundary⟩ = some size ↔ (significand : ℚ) * 2 ^ (0 : Int) = size
      rw [size?_of_large, Option.some.injEq, zpow_zero, pow_zero, Nat.mul_one, mul_one, Nat.cast_inj]
    · rw [size?_of_small significand places boundary some_, zpow_neg, zpow_natCast, ← div_eq_mul_inv,
        div_eq_iff (by positivity)]
      norm_cast
      by_cases even : significand % 2 ^ places = 0
      · rw [if_pos even, Option.some.injEq, Nat.div_eq_iff_eq_mul_left (Nat.two_pow_pos places)
          (Nat.dvd_of_mod_eq_zero even)]
      · rw [if_neg even]
        refine ⟨nofun, fun same => absurd ?_ even⟩
        rw [same]
        exact Nat.mul_mod_left size _

theorem whole?_iff (x : Float) (n : Int) : whole? x = some n ↔ value? x = some (n : ℚ) := by
  unfold value?
  cases decoded : Binary.ofBits? x.toBits with
  | none =>
    rw [whole?, decoded]
    exact ⟨nofun, nofun⟩
  | some binary =>
    have positive := magnitude_nonneg binary
    rw [whole?_eq x binary decoded, Option.map_some, Option.some.injEq]
    constructor
    · intro whole
      obtain ⟨size, found, signed⟩ := Option.map_eq_some_iff.1 whole
      rw [(size?_iff binary size).1 found, ← signed]
      split <;> push_cast <;> rfl
    · intro exact
      have found : size? binary = some n.natAbs := by
        rw [size?_iff, Nat.cast_natAbs, Int.cast_abs, ← exact]
        split
        · rw [abs_neg, abs_of_nonneg positive]
        · rw [abs_of_nonneg positive]
      rw [found, Option.map_some, Option.some.injEq]
      by_cases negative : isNegative x = true
      · rw [if_pos negative] at exact ⊢
        have below : n ≤ 0 := by
          have : (n : ℚ) ≤ 0 := by linarith
          exact_mod_cast this
        omega
      · rw [if_neg negative] at exact ⊢
        have above : 0 ≤ n := by
          have : (0 : ℚ) ≤ n := by linarith
          exact_mod_cast this
        omega

/-! ### Rounding -/

theorem significand_lt (bits : UInt64) (binary : Binary) (decoded : Binary.ofBits? bits = some binary) :
    binary.significand < 2 ^ 53 := by
  have small : fraction bits < 0x10000000000000 := Nat.mod_lt _ (by decide)
  rw [ofBits?_eq] at decoded
  by_cases full : field bits = 0x7FF
  · rw [if_pos full] at decoded
    cases decoded
  rw [if_neg full] at decoded
  by_cases empty : field bits = 0
  · rw [if_pos empty] at decoded
    cases decoded
    change fraction bits < _
    omega
  · rw [if_neg empty] at decoded
    cases decoded
    change 0x10000000000000 + fraction bits < _
    omega

theorem multiple_far (n kept rest unit k : Int) (split_ : unit * kept + rest = n) (least : 0 ≤ rest) (below : rest < unit) :
    rest ≤ |k * unit - n| ∨ unit - rest ≤ |k * unit - n| := by
  by_cases front : k ≤ kept
  · left
    have less : k * unit ≤ unit * kept := by nlinarith
    rw [le_abs]
    right
    linarith
  · right
    have more : unit * kept + unit ≤ k * unit := by nlinarith
    rw [le_abs]
    left
    linarith

theorem dropped_cases (n places : Nat) :
    dropped n places = n / 2 ^ places ∧ 2 * (n % 2 ^ places) ≤ 2 ^ places ∨
    dropped n places = n / 2 ^ places + 1 ∧ 2 ^ places ≤ 2 * (n % 2 ^ places) := by
  have rule : dropped n places = if 2 * (n % 2 ^ places) < 2 ^ places ∨
      2 * (n % 2 ^ places) = 2 ^ places ∧ n / 2 ^ places % 2 = 0 then n / 2 ^ places else n / 2 ^ places + 1 := rfl
  rw [rule]
  split <;> omega

/-- No multiple of the unit is nearer to a number than the one that is left of it. -/
theorem dropped_nearest (n places : Nat) (k : Int) :
    |(dropped n places * 2 ^ places : Int) - n| ≤ |k * 2 ^ places - n| := by
  have split_ : (2 : Int) ^ places * (n / 2 ^ places : Nat) + (n % 2 ^ places : Nat) = n := by
    exact_mod_cast Nat.div_add_mod n (2 ^ places)
  have below : ((n % 2 ^ places : Nat) : Int) < 2 ^ places := by
    exact_mod_cast Nat.mod_lt n (Nat.two_pow_pos places)
  have far := multiple_far n _ _ _ k split_ (Int.natCast_nonneg _) below
  have unit : (2 : Int) ^ places = ((2 ^ places : Nat) : Int) := by push_cast; rfl
  obtain ⟨same, near⟩ | ⟨same, near⟩ := dropped_cases n places
  · have size : |(dropped n places * 2 ^ places : Int) - n| = (n % 2 ^ places : Nat) := by
      rw [same, ← split_, abs_eq (Int.natCast_nonneg _)]
      right
      ring
    omega
  · have size : |(dropped n places * 2 ^ places : Int) - n| = 2 ^ places - (n % 2 ^ places : Nat) := by
      rw [same, ← split_, abs_eq (by linarith)]
      left
      push_cast
      ring
    omega

def rounded (n : Nat) : ℚ := leading n * 2 ^ ((n.log2 : Int) - 52)

theorem rounded_of_short (n : Nat) (short : n.log2 ≤ 52) : rounded n = n := by
  have place : (n.log2 : Int) - 52 = -((52 - n.log2 : Nat) : Int) := by omega
  have front : leading n = n * 2 ^ (52 - n.log2) := if_pos short
  rw [rounded, front, place, zpow_neg, zpow_natCast]
  push_cast
  exact mul_inv_cancel_right₀ (by positivity) _

theorem magnitude_multiple (binary : Binary) (length places : Nat) (bound : binary.significand < 2 ^ 53)
    (place : length = places + 52) (large : (2 : ℚ) ^ length ≤ magnitude binary) :
    ∃ k : Int, magnitude binary = ((k * 2 ^ places : Int) : ℚ) := by
  have power : (places : Int) ≤ binary.exponent := by
    by_contra low
    have less : magnitude binary < 2 ^ 53 * (2 : ℚ) ^ ((places : Int) - 1) := by
      have small : (binary.significand : ℚ) < 2 ^ 53 := by exact_mod_cast bound
      have steps : (2 : ℚ) ^ binary.exponent ≤ 2 ^ ((places : Int) - 1) :=
        zpow_le_zpow_right₀ (by norm_num) (by omega)
      calc magnitude binary = binary.significand * (2 : ℚ) ^ binary.exponent := rfl
        _ < 2 ^ 53 * (2 : ℚ) ^ binary.exponent := mul_lt_mul_of_pos_right small (by positivity)
        _ ≤ 2 ^ 53 * (2 : ℚ) ^ ((places : Int) - 1) := mul_le_mul_of_nonneg_left steps (by positivity)
    have same : (2 : ℚ) ^ 53 * 2 ^ ((places : Int) - 1) = 2 ^ length := by
      rw [place, ← zpow_natCast, ← zpow_natCast, ← zpow_add₀ (by norm_num)]
      congr 1
      omega
    rw [same] at less
    exact absurd large (not_le.2 less)
  obtain ⟨more, exponent⟩ := Int.le.dest power
  refine ⟨binary.significand * 2 ^ more, ?_⟩
  rw [magnitude, ← exponent, zpow_add₀ (by norm_num), zpow_natCast, zpow_natCast]
  push_cast
  ring

theorem rounded_nearest (n : Nat) (positive : n ≠ 0) (binary : Binary) (bound : binary.significand < 2 ^ 53) :
    |rounded n - n| ≤ |magnitude binary - n| := by
  by_cases short : n.log2 ≤ 52
  · rw [rounded_of_short n short, sub_self, abs_zero]
    exact abs_nonneg _
  obtain ⟨places, place⟩ : ∃ places, n.log2 = places + 52 := ⟨n.log2 - 52, by omega⟩
  have front : leading n = dropped n places := by
    rw [leading, if_neg short, place, Nat.add_sub_cancel]
  have size : rounded n = ((dropped n places * 2 ^ places : Int) : ℚ) := by
    have exponent : ((places + 52 : Nat) : Int) - 52 = places := by omega
    rw [rounded, front, place, exponent, zpow_natCast]
    push_cast
    rfl
  have nearest (k : Int) : |rounded n - n| ≤ |((k * 2 ^ places : Int) : ℚ) - n| := by
    rw [size]
    exact_mod_cast dropped_nearest n places k
  by_cases large : (2 : ℚ) ^ n.log2 ≤ magnitude binary
  · obtain ⟨k, multiple⟩ := magnitude_multiple binary n.log2 places bound place large
    rw [multiple]
    exact nearest k
  -- Below the leading digit, the digit itself is nearer, and it is a multiple.
  · have digit : ((2 ^ 52 * 2 ^ places : Int) : ℚ) = 2 ^ n.log2 := by
      rw [place, pow_add]
      push_cast
      ring
    have least : (2 : ℚ) ^ n.log2 ≤ n := by exact_mod_cast Nat.log2_self_le positive
    have near := nearest (2 ^ 52)
    rw [digit, abs_of_nonpos (by linarith : (2 : ℚ) ^ n.log2 - n ≤ 0)] at near
    rw [abs_of_nonpos (by linarith : magnitude binary - n ≤ 0)]
    linarith

theorem rounded_zero : rounded 0 = 0 := (rounded_of_short 0 (by decide)).trans Nat.cast_zero

theorem le_rounded (n : Nat) (positive : n ≠ 0) : (2 : ℚ) ^ n.log2 ≤ rounded n := by
  have front : (2 : ℚ) ^ 52 ≤ leading n := by exact_mod_cast (leading_bounds n positive).1
  calc (2 : ℚ) ^ n.log2 = 2 ^ 52 * 2 ^ ((n.log2 : Int) - 52) := by
        rw [← zpow_natCast, ← zpow_natCast, ← zpow_add₀ (by norm_num)]
        congr 1
        omega
    _ ≤ rounded n := mul_le_mul_of_nonneg_right front (by positivity)

theorem rounded_le (n : Nat) : rounded n * 2 ^ 53 ≤ n * (2 ^ 53 + 1) := by
  by_cases short : n.log2 ≤ 52
  · rw [rounded_of_short n short]
    have some_ : (0 : ℚ) ≤ n := n.cast_nonneg
    linarith
  obtain ⟨places, place⟩ : ∃ places, n.log2 = places + 52 := ⟨n.log2 - 52, by omega⟩
  have least : 2 ^ 52 * 2 ^ places ≤ n := by
    rw [← pow_add, Nat.add_comm, ← place]
    exact Nat.log2_self_le (by rintro rfl; exact short (by decide))
  have near : 2 * (dropped n places * 2 ^ places) ≤ 2 * n + 2 ^ places := by
    have split_ := Nat.div_add_mod' n (2 ^ places)
    obtain ⟨same, -⟩ | ⟨same, up⟩ := dropped_cases n places
    · rw [same]
      omega
    · rw [same, Nat.add_one_mul (n / 2 ^ places)]
      omega
  have size : rounded n = ((dropped n places * 2 ^ places : Nat) : ℚ) := by
    have exponent : ((places + 52 : Nat) : Int) - 52 = places := by omega
    rw [rounded, leading, if_neg short, place, Nat.add_sub_cancel, exponent, zpow_natCast]
    push_cast
    rfl
  rw [size]
  have scaled : dropped n places * 2 ^ places * 2 ^ 53 ≤ n * (2 ^ 53 + 1) := by omega
  exact_mod_cast scaled

theorem magnitude_ofInt (n : Int) (nonzero : n ≠ 0) (finite : bitsOf n.natAbs ≠ infinityBits) :
    ∃ binary, Binary.ofBits? (ofInt n).toBits = some binary ∧ magnitude binary = rounded n.natAbs ∧
      2 ^ 52 ≤ binary.significand := by
  obtain ⟨infinite, -⟩ | ⟨-, boundary, decoded⟩ | ⟨full, boundary, decoded⟩ := ofBits?_ofInt n nonzero
  · exact absurd infinite finite
  · exact ⟨_, decoded, rfl, (leading_bounds n.natAbs (Int.natAbs_ne_zero.2 nonzero)).1⟩
  · refine ⟨_, decoded, ?_, Nat.le_refl _⟩
    have carried : (n.natAbs.log2 : Int) - 51 = 1 + ((n.natAbs.log2 : Int) - 52) := by ring
    rw [rounded, full, magnitude]
    simp only [carried, zpow_add₀ (two_ne_zero : (2 : ℚ) ≠ 0), zpow_one]
    push_cast
    ring

/-- Of all doubles none is nearer to a whole number than its own, if it is not too large for any. -/
theorem ofInt_nearest (n : Int) (finite : n.natAbs.log2 < 1022) :
    ∃ value, value? (ofInt n) = some value ∧
      ∀ other exact, value? other = some exact → |value - n| ≤ |exact - n| := by
  by_cases zero : n = 0
  · have whole := (whole?_iff (ofInt n) n).1 (whole?_ofInt_short n (by rw [zero]; decide))
    refine ⟨n, whole, fun other exact _ => ?_⟩
    rw [sub_self, abs_zero]
    exact abs_nonneg _
  obtain ⟨binary, decoded, size, -⟩ := magnitude_ofInt n zero fun infinite =>
    absurd (long_of_infinite _ infinite) (Nat.not_le.2 finite)
  have value : value? (ofInt n) = some (if n < 0 then -rounded n.natAbs else rounded n.natAbs) := by
    rw [value?, decoded, Option.map_some, size, isNegative_ofInt]
    simp only [decide_eq_true_eq]
  have sized : ((n.natAbs : Nat) : ℚ) = |(n : ℚ)| := by rw [Nat.cast_natAbs, Int.cast_abs]
  refine ⟨_, value, fun other exact found => ?_⟩
  obtain ⟨near, decodedOther, signed⟩ := Option.map_eq_some_iff.1 found
  have nearest := rounded_nearest n.natAbs (by omega) near (significand_lt _ near decodedOther)
  have side : |magnitude near| = |exact| := by
    rw [← signed]
    split
    · rw [abs_neg]
    · rfl
  rw [abs_of_nonneg (magnitude_nonneg near)] at side
  have same : |(if n < 0 then -rounded n.natAbs else rounded n.natAbs) - (n : ℚ)| = |rounded n.natAbs - (n.natAbs : ℚ)| := by
    rw [sized]
    by_cases negative : n < 0
    · have below : (n : ℚ) < 0 := by exact_mod_cast negative
      rw [if_pos negative, abs_of_neg below, ← abs_neg]
      congr 1
      ring
    · have above : (0 : ℚ) ≤ n := by exact_mod_cast not_lt.1 negative
      rw [if_neg negative, abs_of_nonneg above]
  rw [same]
  refine nearest.trans ?_
  rw [side, sized]
  exact abs_abs_sub_abs_le_abs_sub exact n

end ScriptSandbox.Double
