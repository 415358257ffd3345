import Mathlib
import ScriptSandbox.Decimal.Scaled
import ScriptSandbox.Proofs.Doubles

/-!
Which numbers are in the range of doubles. A number is rounded twice at most, the second time because the
first has made it one place longer, and packed as infinite if its exponent is then beyond the largest. So the
product of two doubles overflows exactly from `limit` on, which lies halfway between the largest double and the
next power of two; and this decides which decimals of a text are too large.
-/

namespace ScriptSandbox.Double

open Float.Model Float.Model.UnpackedFloat

/-! ### Packed numbers -/

theorem isFinite_unpack_components (sign : Sign) (exponent : BitVec 11) (mantissa : BitVec 52) :
    (UnpackedFloat.unpack Format.binary64 (packComponents Format.binary64 sign exponent mantissa)).isFinite =
      decide (exponent ≠ -1#11) := by
  rw [UnpackedFloat.unpack]
  simp only [unpackExponent_packComponents, unpackMantissa_packComponents]
  by_cases full : exponent = -1#11
  · rw [if_pos full, decide_eq_false (not_not_intro full)]
    split <;> rfl
  · rw [if_neg full, decide_eq_true full]
    split
    · split <;> rfl
    · rfl

theorem ofNat_ne_full (n : Nat) (less : n < 2047) : BitVec.ofNat 11 n ≠ -1#11 := by
  intro same
  have numbers : n % 2 ^ 11 = 2047 := congrArg BitVec.toNat same
  omega

theorem isFinite_pack (sign : Sign) (mantissa : Nat) (exponent : Int) (positive : 0 < mantissa) :
    (Float.Model.pack (.finite sign mantissa exponent positive)).isFinite = decide (exponent < 972) := by
  change (UnpackedFloat.unpack Format.binary64 (UnpackedFloat.pack Format.binary64
    (.finite sign mantissa exponent positive))).isFinite = _
  have bias : (Format.binary64.exponentBias : Int) = 1023 := rfl
  rw [UnpackedFloat.pack]
  simp only [bias]
  split
  · next large =>
    change (UnpackedFloat.unpack Format.binary64 (packComponents Format.binary64 sign (-1#11) 0)).isFinite = _
    have beyond : 2048 ≤ (exponent + 1023 + 52).toNat + 1 := large
    rw [isFinite_unpack_components, decide_eq_false (not_not_intro rfl), decide_eq_false]
    omega
  · next small =>
    have within : ¬ 2048 ≤ (exponent + 1023 + 52).toNat + 1 := small
    rw [decide_eq_true (show exponent < 972 by omega)]
    split
    · exact (isFinite_unpack_components sign _ _).trans (decide_eq_true (ofNat_ne_full _ (by omega)))
    · exact (isFinite_unpack_components sign _ _).trans (decide_eq_true (by decide))

/-! ### Rounding -/

theorem mantissa_shiftRight (extended : ExtendedMantissa) (places : Nat) :
    (extended >>> places).mantissa = extended.mantissa / 2 ^ places := by
  induction places with
  | zero => exact (Nat.div_one _).symm
  | succ places ih =>
    change (extended >>> places).mantissa / 2 = _
    rw [ih, Nat.div_div_eq_div_mul, pow_succ]

theorem roundBit_shiftRight (extended : ExtendedMantissa) (places : Nat) :
    (extended >>> (places + 1)).roundBit = (extended.mantissa / 2 ^ places % 2 != 0) := by
  change ((extended >>> places).mantissa % 2 != 0) = _
  rw [mantissa_shiftRight]

theorem mantissa_ofMantissaAndAccuracy (mantissa : Nat) (accuracy : Accuracy) :
    (ExtendedMantissa.ofMantissaAndAccuracy mantissa accuracy).mantissa = mantissa := by
  rcases accuracy with _ | (_ | _ | _) <;> rfl

/-- Rounding leaves the mantissa or adds one; to an odd one it adds if the round bit is set. -/
theorem roundedMantissa_cases (extended : ExtendedMantissa) :
    extended.mantissa ≤ extended.roundedMantissa ∧ extended.roundedMantissa ≤ extended.mantissa + 1 ∧
      (extended.mantissa % 2 = 1 →
        (extended.roundedMantissa = extended.mantissa + 1 ↔ extended.roundBit = true)) := by
  obtain ⟨mantissa, round, sticky⟩ := extended
  cases round <;> cases sticky <;>
    simp [ExtendedMantissa.roundedMantissa, ExtendedMantissa.accuracy, Accuracy.roundToNearestEven]
  all_goals omega

/-- How many places of a number of the form `mantissa · 2^exponent` a double has no room for. -/
def excess (mantissa : Nat) (exponent : Int) : Nat :=
  (max ((mantissa.log2 : Int) + 1 + exponent - 53) (-1074) - exponent).toNat

def roundedFirst (mantissa : Nat) (exponent : Int) (accuracy : Accuracy) : Nat :=
  (ExtendedMantissa.ofMantissaAndAccuracy mantissa accuracy >>> excess mantissa exponent).roundedMantissa

theorem shiftToTargetExponent_eq (mantissa : Nat) (exponent : Int) (accuracy : Accuracy) :
    shiftToTargetExponent Format.binary64 mantissa exponent accuracy =
      (ExtendedMantissa.ofMantissaAndAccuracy mantissa accuracy >>> excess mantissa exponent,
        exponent + excess mantissa exponent) := rfl

theorem isFinite_roundWithAccuracy (sign : Sign) (mantissa : Nat) (exponent : Int) (accuracy : Accuracy)
    (first : Nat) (found : roundedFirst mantissa exponent accuracy = first) (place : Int)
    (placed : exponent + excess mantissa exponent = place) :
    (Float.Model.pack (roundWithAccuracy Format.binary64 sign mantissa exponent accuracy)).isFinite = true ↔
      first / 2 ^ excess first place = 0 ∨ place + excess first place < 972 := by
  have second : (ExtendedMantissa.ofMantissaAndAccuracy first .exact >>> excess first place).mantissa =
      first / 2 ^ excess first place := by
    rw [mantissa_shiftRight, mantissa_ofMantissaAndAccuracy]
  rw [roundedFirst] at found
  rw [roundWithAccuracy, shiftToTargetExponent_eq]
  simp only [found, placed, shiftToTargetExponent_eq]
  split
  · next none_ =>
    rw [second] at none_
    exact iff_of_true (by cases sign <;> rfl) (.inl none_)
  · next some_ =>
    rw [second] at some_
    rw [isFinite_pack, decide_eq_true_eq, or_iff_right some_]

theorem log2_le_of_lt (n places : Nat) (less : n < 2 ^ (places + 1)) : n.log2 ≤ places := by
  by_cases zero : n = 0
  · rw [zero]
    exact Nat.zero_le _
  · exact Nat.le_of_lt_succ ((Nat.log2_lt zero).2 less)

section

variable (mantissa first : Nat) (exponent place : Int) (placed : exponent + excess mantissa exponent = place)
include placed

theorem finite_of_small (low : exponent ≤ 970) (small : (mantissa.log2 : Int) + 1 + exponent ≤ 1023)
    (atMost : first ≤ mantissa / 2 ^ excess mantissa exponent + 1) :
    place + excess first place < 972 ∧ mantissa < (2 ^ 54 - 1) * 2 ^ (970 - exponent).toNat := by
  have below := @Nat.lt_log2_self mantissa
  have room : mantissa / 2 ^ excess mantissa exponent < 2 ^ 53 := by
    rw [Nat.div_lt_iff_lt_mul (Nat.two_pow_pos _), ← pow_add]
    refine below.trans_le (Nat.pow_le_pow_right (by decide) ?_)
    rw [excess]
    omega
  have short := log2_le_of_lt first 53 (by omega)
  constructor
  · rw [excess] at placed ⊢
    omega
  · have more : 2 ^ (mantissa.log2 + 1) ≤ 2 ^ 53 * 2 ^ (970 - exponent).toNat := by
      rw [← pow_add]
      exact Nat.pow_le_pow_right (by decide) (by omega)
    exact below.trans_le (more.trans (Nat.mul_le_mul_right _ (by decide)))

theorem full_of_large (wide : 53 ≤ mantissa.log2) (large : 1024 ≤ (mantissa.log2 : Int) + 1 + exponent)
    (atLeast : mantissa / 2 ^ excess mantissa exponent ≤ first) :
    2 ^ 52 ≤ first ∧ first / 2 ^ excess first place ≠ 0 ∧ excess first place = first.log2 - 52 ∧
      place = (mantissa.log2 : Int) + exponent - 52 := by
  have positive : mantissa ≠ 0 := by
    rintro rfl
    rw [Nat.log2_zero] at wide
    omega
  have full : 2 ^ 52 ≤ first := by
    refine (?_ : 2 ^ 52 ≤ mantissa / 2 ^ excess mantissa exponent).trans atLeast
    rw [Nat.le_div_iff_mul_le (Nat.two_pow_pos _), ← pow_add]
    refine (Nat.pow_le_pow_right (by decide) ?_).trans (Nat.log2_self_le positive)
    rw [excess]
    omega
  have there : first ≠ 0 := by omega
  have long : 52 ≤ first.log2 := (Nat.le_log2 there).2 full
  have again : excess first place = first.log2 - 52 := by
    rw [excess] at placed ⊢
    omega
  refine ⟨full, ?_, again, ?_⟩
  · rw [again]
    have fits := (Nat.pow_le_pow_right (by decide : 0 < 2) (Nat.sub_le _ 52)).trans (Nat.log2_self_le there)
    exact Nat.ne_of_gt (Nat.div_pos fits (Nat.two_pow_pos _))
  · rw [excess] at placed
    omega

end

/-- Places that are rounded off by half, to the nearest and from a tie to even, carry over into one more place
exactly from the last tie on. -/
theorem rounded_lt_iff (kept first : Nat) (most : kept < 2 ^ 54) (atLeast : kept / 2 ≤ first)
    (atMost : first ≤ kept / 2 + 1) (odd : kept / 2 % 2 = 1 → (first = kept / 2 + 1 ↔ kept % 2 ≠ 0)) :
    first < 2 ^ 53 ↔ kept < 2 ^ 54 - 1 := by
  omega

/-- A number is rounded to a double exactly if it is less than halfway from the largest double to the next
power of two. The number is known up to a fraction of its last place. -/
theorem isFinite_round_iff (sign : Sign) (mantissa : Nat) (exponent : Int) (accuracy : Accuracy)
    (low : exponent ≤ 970) :
    (Float.Model.pack (roundWithAccuracy Format.binary64 sign mantissa exponent accuracy)).isFinite = true ↔
      mantissa < (2 ^ 54 - 1) * 2 ^ (970 - exponent).toNat := by
  have cases_ := roundedMantissa_cases
    (ExtendedMantissa.ofMantissaAndAccuracy mantissa accuracy >>> excess mantissa exponent)
  rw [mantissa_shiftRight, mantissa_ofMantissaAndAccuracy, ← roundedFirst] at cases_
  obtain ⟨atLeast, atMost, odd⟩ := cases_
  rw [isFinite_roundWithAccuracy sign mantissa exponent accuracy _ rfl _ rfl]
  generalize roundedFirst mantissa exponent accuracy = first at atLeast atMost odd ⊢
  obtain small | large :
      (mantissa.log2 : Int) + 1 + exponent ≤ 1023 ∨ 1024 ≤ (mantissa.log2 : Int) + 1 + exponent := by omega
  · obtain ⟨finite, less⟩ := finite_of_small mantissa first exponent _ rfl low small atMost
    exact iff_of_true (.inr finite) less
  obtain ⟨full, there, again, place⟩ := full_of_large mantissa first exponent _ rfl (by omega) large atLeast
  rw [or_iff_right there, again, place]
  have below := @Nat.lt_log2_self mantissa
  have positive : mantissa ≠ 0 := by
    rintro rfl
    rw [Nat.log2_zero] at large
    omega
  obtain edge | beyond :
      (mantissa.log2 : Int) + 1 + exponent = 1024 ∨ 1025 ≤ (mantissa.log2 : Int) + 1 + exponent := by omega
  -- The places of a double are filled, and only their last rounding decides.
  · obtain ⟨places, length⟩ : ∃ places, excess mantissa exponent = places + 1 :=
      ⟨excess mantissa exponent - 1, by rw [excess]; omega⟩
    have unit : (970 - exponent).toNat = places := by
      rw [excess] at length
      omega
    rw [length, roundBit_shiftRight, mantissa_ofMantissaAndAccuracy] at odd
    rw [length] at atLeast atMost
    rw [pow_succ, ← Nat.div_div_eq_div_mul] at atLeast atMost odd
    have most : mantissa / 2 ^ places < 2 ^ 54 := by
      rw [Nat.div_lt_iff_lt_mul (Nat.two_pow_pos _), ← pow_add]
      exact below.trans_le (Nat.pow_le_pow_right (by decide) (by omega))
    have reaches : mantissa < (2 ^ 54 - 1) * 2 ^ places ↔ mantissa / 2 ^ places < 2 ^ 54 - 1 :=
      (Nat.div_lt_iff_lt_mul (Nat.two_pow_pos _)).symm
    have short : first.log2 - 52 < 1 ↔ first < 2 ^ 53 := by
      rw [← Nat.log2_lt (by omega : first ≠ 0)]
      omega
    have decided : (mantissa.log2 : Int) + exponent - 52 + (first.log2 - 52 : Nat) < 972 ↔ first.log2 - 52 < 1 := by
      omega
    rw [unit, reaches, decided, short]
    exact rounded_lt_iff _ first most atLeast atMost fun isOdd => (odd isOdd).trans bne_iff_ne
  · refine iff_of_false (by omega) ?_
    have more : 2 ^ 54 * 2 ^ (970 - exponent).toNat ≤ 2 ^ mantissa.log2 := by
      rw [← pow_add]
      exact Nat.pow_le_pow_right (by decide) (by omega)
    have least := Nat.mul_le_mul_right (2 ^ (970 - exponent).toNat) (by decide : 2 ^ 54 - 1 ≤ 2 ^ 54)
    exact Nat.not_lt.2 (least.trans (more.trans (Nat.log2_self_le positive)))

theorem not_isFinite_round (sign : Sign) (mantissa : Nat) (exponent : Int) (accuracy : Accuracy)
    (wide : 53 ≤ mantissa.log2) (high : 970 < exponent) :
    ¬ (Float.Model.pack (roundWithAccuracy Format.binary64 sign mantissa exponent accuracy)).isFinite = true := by
  have atLeast := (roundedMantissa_cases
    (ExtendedMantissa.ofMantissaAndAccuracy mantissa accuracy >>> excess mantissa exponent)).1
  rw [mantissa_shiftRight, mantissa_ofMantissaAndAccuracy, ← roundedFirst] at atLeast
  rw [isFinite_roundWithAccuracy sign mantissa exponent accuracy _ rfl _ rfl]
  obtain ⟨-, there, -, place⟩ := full_of_large mantissa _ exponent _ rfl wide (by omega) atLeast
  rw [or_iff_right there, place]
  omega

/-! ### Products -/

/-- Halfway from the largest double to the next power of two: from here on, numbers are too large. -/
def limit : Nat := (2 ^ 54 - 1) * 2 ^ 970

theorem half_bounds (most places : Nat) :
    (places ≤ 53 + most → 2 ^ places ≤ (2 ^ 54 - 1) * 2 ^ most) ∧
      (54 + most ≤ places → (2 ^ 54 - 1) * 2 ^ most < 2 ^ places) := by
  constructor
  · intro few
    refine (Nat.pow_le_pow_right (by decide) few).trans ?_
    rw [pow_add]
    exact Nat.mul_le_mul_right _ (by decide)
  · intro many
    refine Nat.lt_of_lt_of_le ?_ (Nat.pow_le_pow_right (by decide) many)
    rw [pow_add]
    exact Nat.mul_lt_mul_of_pos_right (by decide) (Nat.two_pow_pos most)

theorem limit_bounds (places : Nat) : (places ≤ 1023 → 2 ^ places ≤ limit) ∧ (1024 ≤ places → limit < 2 ^ places) :=
  half_bounds 970 places

theorem limit_pos : 0 < limit := Nat.one_pos.trans_le ((limit_bounds 0).1 (by decide))

theorem finite_congr (sign : Sign) (mantissa mantissa' : Nat) (exponent exponent' : Int) (positive : 0 < mantissa)
    (positive' : 0 < mantissa') (same : mantissa = mantissa') (same' : exponent = exponent') :
    UnpackedFloat.finite sign mantissa exponent positive = .finite sign mantissa' exponent' positive' := by
  subst same same'
  rfl

theorem unpack_eq (x : Float) (binary : Binary) (decoded : Binary.ofBits? x.toBits = some binary)
    (some_ : 0 < binary.significand) :
    ∃ sign, x.toModel.unpack = .finite sign binary.significand binary.exponent some_ := by
  have exponent := toNat_unpackExponent x.toBits
  have rest := toNat_unpackMantissa x.toBits
  change ∃ sign, UnpackedFloat.unpack .binary64 x.toBits.toBitVec = _
  rw [ofBits?_eq] at decoded
  rw [UnpackedFloat.unpack]
  by_cases full : field x.toBits = 0x7FF
  · rw [if_pos full] at decoded
    cases decoded
  have notFull : @unpackExponent .binary64 x.toBits.toBitVec ≠ -1#11 := fun same =>
    full (exponent.symm.trans (congrArg BitVec.toNat same))
  rw [if_neg full] at decoded
  by_cases empty : field x.toBits = 0
  · rw [if_pos empty] at decoded
    cases decoded
    have zero : @unpackExponent .binary64 x.toBits.toBitVec = 0#11 := BitVec.eq_of_toNat_eq (exponent.trans empty)
    have notZero : @unpackMantissa .binary64 x.toBits.toBitVec ≠ 0#52 := fun same =>
      Nat.ne_of_gt some_ (rest.symm.trans (congrArg BitVec.toNat same))
    simp only [if_neg notFull, if_pos zero, dif_neg notZero]
    refine ⟨_, finite_congr _ _ _ _ _ _ some_ rest ?_⟩
    change ((@unpackExponent .binary64 x.toBits.toBitVec).toNat : Int) - (1023 + 52) + 1 = -1074
    omega
  · rw [if_neg empty] at decoded
    cases decoded
    have notZero : @unpackExponent .binary64 x.toBits.toBitVec ≠ 0#11 := fun same =>
      empty (exponent.symm.trans (congrArg BitVec.toNat same))
    simp only [if_neg notFull, if_neg notZero]
    refine ⟨_, finite_congr _ _ _ _ _ _ some_ ?_ ?_⟩
    · have small := (@unpackMantissa .binary64 x.toBits.toBitVec).isLt
      rw [BitVec.toNat_append, ← Nat.shiftLeft_add_eq_or_of_lt small, rest]
      rfl
    · change ((@unpackExponent .binary64 x.toBits.toBitVec).toNat : Int) - (1023 + 52) = field x.toBits - 1075
      omega

theorem magnitude_mul (x y : Binary) :
    magnitude x * magnitude y = (x.significand * y.significand : Nat) * 2 ^ (x.exponent + y.exponent) := by
  rw [magnitude, magnitude, zpow_add₀ (by norm_num)]
  push_cast
  ring

theorem magnitude_mul_lt_iff (x y : Binary) (places : Nat) (room : 970 - (x.exponent + y.exponent) = places) :
    magnitude x * magnitude y < limit ↔ x.significand * y.significand < (2 ^ 54 - 1) * 2 ^ places := by
  have scale : (0 : ℚ) < 2 ^ (x.exponent + y.exponent) := by positivity
  have whole : ((2 ^ places : Nat) : ℚ) * 2 ^ (x.exponent + y.exponent) = ((2 ^ 970 : Nat) : ℚ) := by
    rw [Nat.cast_pow, Nat.cast_pow, ← zpow_natCast, ← zpow_natCast, Nat.cast_ofNat, ← zpow_add₀ (by norm_num)]
    congr 1
    omega
  rw [magnitude_mul, limit, Nat.cast_mul (2 ^ 54 - 1), ← whole, ← mul_assoc, ← Nat.cast_mul,
    mul_lt_mul_iff_left₀ scale, Nat.cast_lt]

/-- A product of two doubles with all their places is finite exactly if it is less than halfway from the largest
double to the next power of two. -/
theorem isFinite_mul_iff (x y : Float) (left right : Binary) (decoded : Binary.ofBits? x.toBits = some left)
    (decoded' : Binary.ofBits? y.toBits = some right) (full : 2 ^ 52 ≤ left.significand)
    (full' : 2 ^ 52 ≤ right.significand) :
    (x * y).isFinite = true ↔ magnitude left * magnitude right < limit := by
  obtain ⟨sign, unpacked⟩ := unpack_eq x left decoded (by omega)
  obtain ⟨sign', unpacked'⟩ := unpack_eq y right decoded' (by omega)
  change (Float.Model.pack (UnpackedFloat.mul Format.binary64 x.toModel.unpack y.toModel.unpack)).isFinite = true ↔ _
  rw [unpacked, unpacked', UnpackedFloat.mul]
  have product : 2 ^ 52 * 2 ^ 52 ≤ left.significand * right.significand := Nat.mul_le_mul full full'
  by_cases low : left.exponent + right.exponent ≤ 970
  · obtain ⟨places, room⟩ : ∃ places : Nat, 970 - (left.exponent + right.exponent) = places :=
      ⟨(970 - (left.exponent + right.exponent)).toNat, by omega⟩
    rw [isFinite_round_iff _ _ _ _ low, magnitude_mul_lt_iff left right places room, room, Int.toNat_natCast]
  · have wide : 53 ≤ (left.significand * right.significand).log2 :=
      (Nat.le_log2 (by omega)).2 ((by decide : 2 ^ 53 ≤ 2 ^ 52 * 2 ^ 52).trans product)
    refine iff_of_false (not_isFinite_round _ _ _ _ wide (by omega)) (not_lt.2 ?_)
    have places : (2 : ℚ) ^ 970 ≤ 2 ^ (left.exponent + right.exponent) := by
      rw [← zpow_natCast]
      exact zpow_le_zpow_right₀ (by norm_num) (by omega)
    rw [magnitude_mul]
    calc (limit : ℚ) ≤ (left.significand * right.significand : Nat) * 2 ^ 970 := by
          rw [limit]
          exact_mod_cast Nat.mul_le_mul_right (2 ^ 970) ((by decide : 2 ^ 54 - 1 ≤ 2 ^ 52 * 2 ^ 52).trans product)
      _ ≤ (left.significand * right.significand : Nat) * 2 ^ (left.exponent + right.exponent) :=
          mul_le_mul_of_nonneg_left places (Nat.cast_nonneg _)

/-! ### Products of rounded numbers -/

theorem log2_power_mono (few places : Nat) (more : few ≤ places) : (10 ^ few).log2 ≤ (10 ^ places).log2 := by
  rw [Nat.log2_eq_log_two, Nat.log2_eq_log_two]
  exact Nat.log_mono_right (Nat.pow_le_pow_right (by decide) more)

theorem log2_power (places : Nat) (many : 309 ≤ places) : 1024 ≤ (10 ^ places).log2 :=
  (by decide +kernel : 1024 ≤ (10 ^ 309).log2).trans (log2_power_mono 309 places many)

theorem finite_power : ∀ places < 309, bitsOf (10 ^ places) ≠ infinityBits := by decide +kernel

theorem finite_of_short (n : Nat) (short : n < 2 ^ 64) : bitsOf n ≠ infinityBits := by
  intro infinite
  have long := long_of_infinite n infinite
  have few := log2_le_of_lt n 63 short
  omega

theorem isFinite_zero_mul (y : Float) (right : Binary) (decoded : Binary.ofBits? y.toBits = some right)
    (some_ : 0 < right.significand) : (ofInt 0 * y).isFinite = true := by
  obtain ⟨sign, unpacked⟩ := unpack_eq y right decoded some_
  have zero : (ofInt 0).toModel.unpack = .zero .positive := by
    change UnpackedFloat.unpack .binary64 (ofInt 0).toBits.toBitVec = _
    rw [bits_zero]
    rfl
  change (Float.Model.pack (UnpackedFloat.mul Format.binary64 (ofInt 0).toModel.unpack y.toModel.unpack)).isFinite = true
  rw [zero, unpacked, UnpackedFloat.mul]
  cases sign <;> decide

theorem isFinite_mul_ofInt (m n : Nat) (some_ : n ≠ 0) (finite : bitsOf m ≠ infinityBits)
    (finite' : bitsOf n ≠ infinityBits) : (ofInt m * ofInt n).isFinite = true ↔ rounded m * rounded n < limit := by
  obtain ⟨right, decoded', size', full'⟩ := magnitude_ofInt n (by omega) finite'
  by_cases zero : m = 0
  · subst zero
    rw [rounded_zero, zero_mul]
    refine iff_of_true (isFinite_zero_mul _ right decoded' (by omega)) ?_
    exact Nat.cast_pos.2 limit_pos
  · obtain ⟨left, decoded, size, full⟩ := magnitude_ofInt m (by omega) finite
    rw [isFinite_mul_iff _ _ left right decoded decoded' full full', size, size']
    rfl

/-- A decimal is scaled to a double exactly if the sizes of its rounded factors have a product in the range. -/
theorem isSome_scaled? (n : Nat) (place : Int) (short : n < 2 ^ 64) :
    (Decimal.scaled? n place).isSome = true ↔ rounded n * rounded (10 ^ place.toNat) < limit := by
  have one : rounded (10 ^ 0) = 1 := (rounded_of_short (10 ^ 0) (by decide)).trans (by norm_num)
  have small (few : place ≤ 0) : rounded n * rounded (10 ^ place.toNat) < limit := by
    rw [Int.toNat_of_nonpos few, one, mul_one]
    have bound : (n : ℚ) ≤ 2 ^ 64 := by exact_mod_cast short.le
    have near := rounded_le n
    have most : ((2 ^ 66 : Nat) : ℚ) ≤ limit := Nat.cast_le.2 ((limit_bounds 66).1 (by decide))
    push_cast at most
    nlinarith
  rw [Decimal.scaled?]
  simp only
  split
  · next negative => exact iff_of_true rfl (small negative.le)
  split
  · next zero => exact iff_of_true rfl (small zero.le)
  split
  · next most =>
    rw [← isFinite_mul_ofInt n (10 ^ place.toNat) (by positivity) (finite_of_short n short)
      (finite_power place.toNat (by omega))]
    split
    · next finite => exact iff_of_true rfl finite
    · next infinite => exact iff_of_false nofun infinite
  split
  · next zero =>
    rw [zero, rounded_zero, zero_mul]
    refine iff_of_true rfl ?_
    exact Nat.cast_pos.2 limit_pos
  · next some_ =>
    -- Rounding keeps leading digits, so that a large power alone is beyond the range.
    have long := log2_power place.toNat (by omega)
    have power : (limit : ℚ) ≤ rounded (10 ^ place.toNat) := by
      refine le_trans ?_ (le_rounded _ (by positivity))
      exact_mod_cast ((limit_bounds _).2 long).le
    have one_le : 1 ≤ rounded n := (one_le_pow₀ (by norm_num)).trans (le_rounded n some_)
    refine iff_of_false nofun (not_lt.2 (power.trans ?_))
    exact le_mul_of_one_le_left ((Nat.cast_nonneg limit).trans power) one_le

/-! ### Numbers that stay in the range -/

/-- Products below are in the range even if rounding enlarges both factors. Only the largest three doubles are not
less. -/
def safe : Nat := (2 ^ 53 - 3) * 2 * 2 ^ 970

theorem word_le_safe : 2 ^ 64 ≤ safe := by decide +kernel

theorem safe_le_power : safe ≤ 2 ^ 1024 := by decide +kernel

theorem rounded_nonneg (n : Nat) : 0 ≤ rounded n := by
  rw [rounded]
  positivity

theorem safe_le (unit : Nat) :
    (2 ^ 53 - 3) * 2 * unit * (2 ^ 53 + 1) ^ 2 ≤ (2 ^ 54 - 1) * unit * (2 ^ 53) ^ 2 := by
  have few : (2 ^ 53 - 3) * 2 * (2 ^ 53 + 1) ^ 2 ≤ (2 ^ 54 - 1) * (2 ^ 53) ^ 2 := by decide
  rw [Nat.mul_right_comm _ unit, Nat.mul_right_comm _ unit]
  exact Nat.mul_le_mul_right unit few

theorem rounded_mul_le (m n : Nat) :
    rounded m * rounded n * ((2 ^ 53) ^ 2 : Nat) ≤ ((m * n * (2 ^ 53 + 1) ^ 2 : Nat) : ℚ) := by
  have grows : rounded m * 2 ^ 53 * (rounded n * 2 ^ 53) ≤ m * (2 ^ 53 + 1) * (n * (2 ^ 53 + 1)) :=
    mul_le_mul (rounded_le m) (rounded_le n) (mul_nonneg (rounded_nonneg n) (by positivity)) (by positivity)
  calc rounded m * rounded n * ((2 ^ 53) ^ 2 : Nat) = rounded m * 2 ^ 53 * (rounded n * 2 ^ 53) := by
        push_cast
        ring
    _ ≤ m * (2 ^ 53 + 1) * (n * (2 ^ 53 + 1)) := grows
    _ = ((m * n * (2 ^ 53 + 1) ^ 2 : Nat) : ℚ) := by
        push_cast
        ring

theorem rounded_mul_lt (m n : Nat) (small : m * n < safe) : rounded m * rounded n < limit := by
  have less : m * n * (2 ^ 53 + 1) ^ 2 < limit * (2 ^ 53) ^ 2 := by
    refine (Nat.mul_lt_mul_of_pos_right small (by decide)).trans_le ?_
    rw [safe, limit]
    exact safe_le _
  have bound := (rounded_mul_le m n).trans_lt (Nat.cast_lt.2 less)
  rw [Nat.cast_mul limit] at bound
  exact lt_of_mul_lt_mul_right bound (Nat.cast_nonneg _)

theorem rounded_of_long (n places : Nat) (long : n.log2 = places + 52) : rounded n = leading n * 2 ^ places := by
  have exponent : ((places + 52 : Nat) : Int) - 52 = places := by omega
  rw [rounded, long, exponent, zpow_natCast]

end ScriptSandbox.Double
