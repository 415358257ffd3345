import ScriptSandbox.Decimal.Shortest
import ScriptSandbox.Proofs.DoubleRange

/-!
The shortest decimal of a double: it is not zero, and at most half a place larger than the number, as all of its
interval is. If no grid holds a decimal, the digits of the number itself are taken, which are then enough.
-/

namespace ScriptSandbox.Binary

/-! ### The grids of decimals -/

variable (x : Binary)

theorem scale_iff (place : Int) (multiple quarters : Nat) :
    (multiple * (x.scale place).2 ≤ quarters * (x.scale place).1 ↔
        (multiple : ℚ) * 10 ^ place ≤ quarters * 2 ^ (x.exponent - 2)) ∧
      (multiple * (x.scale place).2 < quarters * (x.scale place).1 ↔
        (multiple : ℚ) * 10 ^ place < quarters * 2 ^ (x.exponent - 2)) := by
  have twos : (2 : ℚ) ^ (x.exponent - 2).toNat = 2 ^ (2 - x.exponent).toNat * 2 ^ (x.exponent - 2) := by
    rw [← zpow_natCast, ← zpow_natCast, ← zpow_add₀ (by norm_num)]
    congr 1
    omega
  have tens : (10 : ℚ) ^ place.toNat = 10 ^ (-place).toNat * 10 ^ place := by
    rw [← zpow_natCast, ← zpow_natCast, ← zpow_add₀ (by norm_num)]
    congr 1
    omega
  have unit : (0 : ℚ) < 2 ^ (2 - x.exponent).toNat * 10 ^ (-place).toNat := by positivity
  have left : ((multiple * (x.scale place).2 : Nat) : ℚ) =
      2 ^ (2 - x.exponent).toNat * 10 ^ (-place).toNat * (multiple * 10 ^ place) := by
    change ((multiple * (2 ^ (2 - x.exponent).toNat * 10 ^ place.toNat) : Nat) : ℚ) = _
    push_cast
    rw [tens]
    ring
  have right : ((quarters * (x.scale place).1 : Nat) : ℚ) =
      2 ^ (2 - x.exponent).toNat * 10 ^ (-place).toNat * (quarters * 2 ^ (x.exponent - 2)) := by
    change ((quarters * (2 ^ (x.exponent - 2).toNat * 10 ^ (-place).toNat) : Nat) : ℚ) = _
    push_cast
    rw [twos]
    ring
  rw [← Nat.cast_le (α := ℚ), ← Nat.cast_lt (α := ℚ), left, right]
  exact ⟨mul_le_mul_iff_right₀ unit, mul_lt_mul_iff_right₀ unit⟩

theorem scale_positive (place : Int) : 0 < (x.scale place).1 :=
  Nat.mul_pos (Nat.pow_pos (by decide)) (Nat.pow_pos (by decide))

/-- A multiple in the interval of a number is not zero, and at most half a place larger than the number. -/
theorem contains_bounds (place : Int) (multiple : Nat) (some_ : x.significand ≠ 0)
    (inside : x.contains place multiple = true) :
    multiple ≠ 0 ∧ (multiple : ℚ) * 10 ^ place ≤ (4 * x.significand + 2 : Nat) * 2 ^ (x.exponent - 2) := by
  have up := x.scale_positive place
  have low : 0 < (4 * x.significand - if x.atBoundary then 1 else 2) * (x.scale place).1 := by
    refine Nat.mul_pos ?_ up
    split <;> omega
  rw [← (x.scale_iff place multiple (4 * x.significand + 2)).1]
  rw [contains] at inside
  simp only at inside
  have bounds : (4 * x.significand - if x.atBoundary then 1 else 2) * (x.scale place).1 ≤ multiple * (x.scale place).2 ∧
      multiple * (x.scale place).2 ≤ (4 * x.significand + 2) * (x.scale place).1 := by
    split at inside
    · simpa using inside
    · rw [Bool.and_eq_true, decide_eq_true_eq, decide_eq_true_eq] at inside
      exact ⟨inside.1.le, inside.2.le⟩
  refine ⟨?_, bounds.2⟩
  rintro rfl
  rw [Nat.zero_mul] at bounds
  omega

theorem contains_of_onGrid? (place : Int) (multiple : Nat) (found : x.onGrid? place = some multiple) :
    x.contains place multiple = true := by
  rw [onGrid?] at found
  simp only at found
  split at found
  · cases found
  · next below above =>
    cases found
    exact below
  · next below above =>
    cases found
    exact above
  · next below above =>
    cases found
    split
    · exact below
    split
    · exact above
    split
    · exact below
    · exact above

/-- The search ends on a decimal in the interval, or with the digits of the number itself. -/
theorem search_cases (leading : Int) (steps : Nat) (place : Int) :
    x.contains (x.search leading steps place).exponent (x.search leading steps place).coefficient = true ∨
      x.search leading steps place =
        ⟨4 * x.significand * (x.scale (place - steps)).1 / (x.scale (place - steps)).2, place - steps⟩ := by
  induction steps generalizing place with
  | zero =>
    rw [Nat.cast_zero, sub_zero]
    exact .inr rfl
  | succ steps ih =>
    rw [search]
    split
    · next multiple found => exact .inl (x.contains_of_onGrid? place multiple found)
    · have next_ := ih (place - 1)
      rw [show place - ((steps + 1 : Nat) : Int) = place - 1 - steps by omega]
      exact next_

/-! ### The leading place -/

theorem ten_le_two (few many : Nat) (fits : 10 * few ≤ 3 * many) : 10 ^ few ≤ 2 ^ many := by
  rw [← Nat.pow_le_pow_iff_left (by decide : 3 ≠ 0)]
  calc (10 ^ few) ^ 3 = (10 ^ 3) ^ few := by rw [← pow_mul, ← pow_mul, Nat.mul_comm]
    _ ≤ (2 ^ 10) ^ few := Nat.pow_le_pow_left (by decide) few
    _ = 2 ^ (10 * few) := (pow_mul 2 10 few).symm
    _ ≤ 2 ^ (3 * many) := Nat.pow_le_pow_right (by decide) fits
    _ = (2 ^ many) ^ 3 := by rw [← pow_mul, Nat.mul_comm]

theorem two_le_ten (few many : Nat) (fits : 4 * few ≤ 13 * many) : 2 ^ few ≤ 10 ^ many := by
  rw [← Nat.pow_le_pow_iff_left (by decide : 13 ≠ 0)]
  calc (2 ^ few) ^ 13 = (2 ^ 13) ^ few := by rw [← pow_mul, ← pow_mul, Nat.mul_comm]
    _ ≤ (10 ^ 4) ^ few := Nat.pow_le_pow_left (by decide) few
    _ = 10 ^ (4 * few) := (pow_mul 10 4 few).symm
    _ ≤ 10 ^ (13 * many) := Nat.pow_le_pow_right (by decide) fits
    _ = (10 ^ many) ^ 13 := by rw [← pow_mul, Nat.mul_comm]

theorem estimate_le (places : Int) (least : -2000 ≤ places) (most : places ≤ 2000) :
    (10 : ℚ) ^ (places * 30103 / 100000 - 18) ≤ 2 ^ places := by
  have floor := Int.ediv_mul_le (places * 30103) (by decide : (100000 : Int) ≠ 0)
  generalize places * 30103 / 100000 = estimate at floor ⊢
  obtain ⟨places, rfl | rfl⟩ := Int.eq_nat_or_neg places
  · by_cases small : estimate - 18 ≤ 0
    · exact (zpow_le_one_of_nonpos₀ (by norm_num) small).trans (one_le_zpow₀ (by norm_num) (by omega))
    · obtain ⟨few, same⟩ := Int.eq_ofNat_of_zero_le (by omega : 0 ≤ estimate - 18)
      rw [same, zpow_natCast, zpow_natCast]
      exact_mod_cast ten_le_two few places (by omega)
  · obtain ⟨many, same⟩ : ∃ many : Nat, estimate - 18 = -many := ⟨(18 - estimate).toNat, by omega⟩
    rw [same, zpow_neg, zpow_neg, zpow_natCast, zpow_natCast]
    refine inv_anti₀ (by positivity) ?_
    exact_mod_cast two_le_ten places many (by omega)

theorem quarters_eq : ((4 * x.significand : Nat) : ℚ) * 2 ^ (x.exponent - 2) = x.significand * 2 ^ x.exponent := by
  rw [zpow_sub₀ (by norm_num)]
  push_cast
  ring

theorem leadingPlace_le (some_ : x.significand ≠ 0) (short : x.significand < 2 ^ 53) (least : -1074 ≤ x.exponent)
    (most : x.exponent ≤ 971) : (10 : ℚ) ^ (x.leadingPlace - 17) ≤ x.significand * 2 ^ x.exponent := by
  have reached (place : Int) (reaches : decide ((x.scale place).2 ≤ 4 * x.significand * (x.scale place).1) = true) :
      (10 : ℚ) ^ (place - 17) ≤ x.significand * 2 ^ x.exponent := by
    have upTo := (x.scale_iff place 1 (4 * x.significand)).1.1 (by rw [Nat.one_mul]; exact of_decide_eq_true reaches)
    rw [Nat.cast_one, one_mul, quarters_eq] at upTo
    exact (zpow_le_zpow_right₀ (by norm_num) (by omega)).trans upTo
  rw [leadingPlace]
  simp only
  split
  · next reaches => exact reached _ reaches
  split
  · next reaches => exact reached _ reaches
  · have log := (Nat.log2_lt some_).2 short
    have places := estimate_le ((x.significand.log2 : Int) + x.exponent) (by omega) (by omega)
    rw [sub_sub]
    refine places.trans ?_
    rw [zpow_add₀ (by norm_num), zpow_natCast]
    refine mul_le_mul_of_nonneg_right ?_ (by positivity)
    exact_mod_cast Nat.log2_self_le some_

/-! ### The shortest decimal -/

/-- The shortest decimal of a double is not zero, and not beyond the end of its interval. -/
theorem shortest_bounds (some_ : x.significand ≠ 0) (short : x.significand < 2 ^ 53) (least : -1074 ≤ x.exponent)
    (most : x.exponent ≤ 971) :
    x.shortest.coefficient ≠ 0 ∧
      (x.shortest.coefficient : ℚ) * 10 ^ x.shortest.exponent ≤ (4 * x.significand + 2 : Nat) * 2 ^ (x.exponent - 2) := by
  rw [shortest, if_neg some_]
  obtain inside | digits := x.search_cases x.leadingPlace 17 x.leadingPlace
  · exact x.contains_bounds _ _ some_ inside
  · have down : 0 < (x.scale (x.leadingPlace - (17 : Nat))).2 :=
      Nat.mul_pos (Nat.pow_pos (by decide)) (Nat.pow_pos (by decide))
    have there := x.leadingPlace_le some_ short least most
    rw [digits]
    constructor
    · refine Nat.ne_of_gt (Nat.div_pos ?_ down)
      rw [← Nat.one_mul (Prod.snd _)]
      refine (x.scale_iff _ 1 _).1.2 ?_
      rw [Nat.cast_one, one_mul, quarters_eq]
      exact there
    · refine ((x.scale_iff _ _ (4 * x.significand)).1.1 (Nat.div_mul_le_self _ _)).trans ?_
      exact mul_le_mul_of_nonneg_right (Nat.cast_le.2 (Nat.le_add_right _ _)) (by positivity)

theorem end_lt_safe (short : x.significand < 2 ^ 53) (most : x.exponent ≤ 971)
    (smaller : x.exponent = 971 → x.significand < 2 ^ 53 - 3) :
    ((4 * x.significand + 2 : Nat) : ℚ) * 2 ^ (x.exponent - 2) < Double.safe := by
  have positive : (0 : ℚ) < 2 ^ (968 : Int) := by positivity
  have end_ : (Double.safe : ℚ) = (8 * (2 ^ 53 - 3) : Nat) * 2 ^ (968 : Int) := by
    have unit (places : Nat) : (((2 ^ 53 - 3) * 2 * 2 ^ (places + 2) : Nat) : ℚ) =
        (8 * (2 ^ 53 - 3) : Nat) * 2 ^ (places : Int) := by
      rw [zpow_natCast, pow_add]
      push_cast
      ring
    rw [Double.safe, show 970 = 968 + 2 from rfl]
    exact unit 968
  rw [end_]
  obtain low | high : x.exponent ≤ 970 ∨ x.exponent = 971 := by omega
  · calc ((4 * x.significand + 2 : Nat) : ℚ) * 2 ^ (x.exponent - 2)
        ≤ (4 * x.significand + 2 : Nat) * 2 ^ (968 : Int) :=
          mul_le_mul_of_nonneg_left (zpow_le_zpow_right₀ (by norm_num) (by omega)) (Nat.cast_nonneg _)
      _ < (8 * (2 ^ 53 - 3) : Nat) * 2 ^ (968 : Int) :=
          mul_lt_mul_of_pos_right (Nat.cast_lt.2 (by omega)) positive
  · have less := smaller high
    have double : (2 : ℚ) ^ (x.exponent - 2) = 2 * 2 ^ (968 : Int) := by
      rw [high, ← zpow_one_add₀ (by norm_num)]
      rfl
    have few : (4 * x.significand + 2) * 2 < 8 * (2 ^ 53 - 3) := by omega
    rw [double, ← mul_assoc]
    refine mul_lt_mul_of_pos_right ?_ positive
    exact_mod_cast few

theorem shortest_largest : ∀ boundary : Bool, ∀ k < 3, (shortest ⟨2 ^ 53 - 3 + k, 971, boundary⟩).normalized =
    (Nat.toDigits 10 (17976931348623153 + 2 * k), 308) := by decide +kernel

end ScriptSandbox.Binary
