import ScriptSandbox.Proofs.ByteOrder
import ScriptSandbox.Text.Lossy

/-!
Well-formed texts cross the boundary of the sandbox unchanged: in as UTF-16 units, out as UTF-8 bytes, and
decoded again. Each of the three stages is followed for one character, from the state between characters
back to it.
-/

namespace ScriptSandbox

theorem Text.toNat_cases (c : Char) : c.toNat < 0xD800 ∨ 0xDFFF < c.toNat ∧ c.toNat < 0x110000 := by
  have valid := c.valid
  simp only [UInt32.isValidChar, Nat.isValidChar] at valid
  change c.val.toNat < 0xD800 ∨ 0xDFFF < c.val.toNat ∧ c.val.toNat < 0x110000
  omega

theorem foldl_push (items : List α) (start : Array α) :
    (items.foldl Array.push start).toList = start.toList ++ items := by
  induction items generalizing start with
  | nil => exact (List.append_nil _).symm
  | cons item items ih => rw [List.foldl_cons, ih, Array.toList_push, List.append_assoc, List.singleton_append]

theorem foldl_lists (add : Array β → α → Array β) (list : α → List β)
    (adds : ∀ found item, (add found item).toList = found.toList ++ list item) (items : List α)
    (start : Array β) : (items.foldl add start).toList = start.toList ++ items.flatMap list := by
  induction items generalizing start with
  | nil => exact (List.append_nil _).symm
  | cons item items ih => rw [List.foldl_cons, ih, adds, List.append_assoc, List.flatMap_cons]

namespace Units

theorem toList_ofString (text : String) :
    (ofString text).toList = text.toList.flatMap fun c => ofCode c.toNat := by
  refine foldl_lists _ _ (fun units c => ?_) text.toList #[]
  by_cases small : c.val < 0x10000
  · have bound : c.toNat < 0x10000 := small
    rw [if_pos small, ofCode, if_pos bound, Array.toList_push]
    rfl
  · rw [if_neg small, foldl_push]

/-! ### From units to code points -/

theorem isHigh_iff (n : Nat) (bound : n < 0x10000) :
    isHigh (UInt16.ofNat n) = true ↔ 0xD800 ≤ n ∧ n ≤ 0xDBFF := by
  have same : (UInt16.ofNat n).toNat = n := UInt16.toNat_ofNat_of_lt' bound
  rw [isHigh, Bool.and_eq_true, decide_eq_true_iff, decide_eq_true_iff, UInt16.le_iff_toNat_le,
    UInt16.le_iff_toNat_le, same]
  exact Iff.rfl

theorem isLow_iff (n : Nat) (bound : n < 0x10000) :
    isLow (UInt16.ofNat n) = true ↔ 0xDC00 ≤ n ∧ n ≤ 0xDFFF := by
  have same : (UInt16.ofNat n).toNat = n := UInt16.toNat_ofNat_of_lt' bound
  rw [isLow, Bool.and_eq_true, decide_eq_true_iff, decide_eq_true_iff, UInt16.le_iff_toNat_le,
    UInt16.le_iff_toNat_le, same]
  exact Iff.rfl

theorem joinStep_high (found : Array Nat) (unit : UInt16) (high : isHigh unit = true) :
    joinStep (found, none) unit = (found, some unit) := if_pos high

theorem joinStep_single (found : Array Nat) (unit : UInt16) (single : isHigh unit = false) :
    joinStep (found, none) unit = (found.push unit.toNat, none) := if_neg (by rw [single]; nofun)

theorem joinStep_low (found : Array Nat) (high unit : UInt16) (low : isLow unit = true) :
    joinStep (found, some high) unit = (found.push (joined high unit), none) := if_pos low

theorem joined_ofNat (high low : Nat) (highBound : high < 0x10000) (lowBound : low < 0x10000) :
    joined (UInt16.ofNat high) (UInt16.ofNat low) = 0x10000 + (high - 0xD800) * 0x400 + (low - 0xDC00) := by
  unfold joined
  rw [UInt16.toNat_ofNat_of_lt' highBound]
  rw [UInt16.toNat_ofNat_of_lt' lowBound]

theorem joins_code (code : Nat) (found : Array Nat)
    (range : code < 0xD800 ∨ 0xDFFF < code ∧ code < 0x110000) :
    (ofCode code).foldl joinStep (found, none) = (found.push code, none) := by
  rw [ofCode]
  by_cases small : code < 0x10000
  · have single : isHigh (UInt16.ofNat code) = false := by
      rw [Bool.eq_false_iff]
      intro high
      have bounds := (isHigh_iff code small).1 high
      omega
    rw [if_pos small, List.foldl_cons, List.foldl_nil, Nat.toUInt16_eq, joinStep_single found _ single,
      UInt16.toNat_ofNat_of_lt' small]
  · have highBound : 0xD800 + (code - 0x10000) / 0x400 < 0x10000 := by omega
    have lowBound : 0xDC00 + (code - 0x10000) % 0x400 < 0x10000 := by omega
    have high := (isHigh_iff _ highBound).2 (by omega)
    have low := (isLow_iff _ lowBound).2 (by omega)
    have whole := joined_ofNat _ _ highBound lowBound
    rw [if_neg small, List.foldl_cons, List.foldl_cons, List.foldl_nil, Nat.toUInt16_eq, Nat.toUInt16_eq,
      joinStep_high found _ high, joinStep_low found _ _ low, whole]
    have same : 0x10000 + (0xD800 + (code - 0x10000) / 0x400 - 0xD800) * 0x400 +
        (0xDC00 + (code - 0x10000) % 0x400 - 0xDC00) = code := by omega
    rw [same]

theorem joins_chars (chars : List Char) (found : Array Nat) :
    (chars.flatMap fun c => ofCode c.toNat).foldl joinStep (found, none) =
      ((chars.map Char.toNat).foldl Array.push found, none) := by
  induction chars generalizing found with
  | nil => rfl
  | cons c chars ih => rw [List.flatMap_cons, List.foldl_append, joins_code _ _ (Text.toNat_cases c), ih, List.map_cons, List.foldl_cons]

theorem codes_ofString (text : String) : (ofString text).codes.toList = text.toList.map Char.toNat := by
  rw [codes, ← Array.foldl_toList, toList_ofString, joins_chars]
  exact foldl_push _ _

theorem toList_toBytes (text : Units) : text.toBytes.toList = text.codes.toList.flatMap codeBytes := by
  rw [toBytes, ← Array.foldl_toList]
  refine foldl_lists _ codeBytes (fun bytes code => ?_) text.codes.toList #[]
  by_cases small : code < 0x80
  · rw [if_pos small, codeBytes, if_pos small, Array.toList_push]
  · rw [if_neg small, foldl_push]

theorem toBytes_ofString (text : String) :
    (ofString text).toBytes.toList = text.toList.flatMap fun c => codeBytes c.toNat := by
  rw [toList_toBytes, codes_ofString, List.flatMap_map]

end Units

/-! ### From bytes to characters -/

namespace Lossy

theorem lt_ofNat (n bound : Nat) (small : n < 256) (fits : bound < 256) :
    UInt8.ofNat n < UInt8.ofNat bound ↔ n < bound := by
  rw [UInt8.lt_iff_toNat_lt, UInt8.toNat_ofNat_of_lt' small, UInt8.toNat_ofNat_of_lt' fits]

theorem eq_ofNat (n value : Nat) (small : n < 256) (fits : value < 256) :
    UInt8.ofNat n = UInt8.ofNat value ↔ n = value := by
  rw [← UInt8.toNat_inj, UInt8.toNat_ofNat_of_lt' small, UInt8.toNat_ofNat_of_lt' fits]

theorem start_ofNat (n : Nat) (small : n < 256) :
    start (UInt8.ofNat n) =
      if n < 0x80 then ([Char.ofNat n], .ready)
      else if n < 0xC2 then ([replacement], .ready)
      else if n < 0xE0 then ([], .within 1 0x80 0xBF (n - 0xC0))
      else if n < 0xF0 then
        ([], .within 2 (if n = 0xE0 then 0xA0 else 0x80) (if n = 0xED then 0x9F else 0xBF) (n - 0xE0))
      else if n < 0xF5 then
        ([], .within 3 (if n = 0xF0 then 0x90 else 0x80) (if n = 0xF4 then 0x8F else 0xBF) (n - 0xF0))
      else ([replacement], .ready) := by
  have same : (UInt8.ofNat n).toNat = n := UInt8.toNat_ofNat_of_lt' small
  have less (bound : Nat) (fits : bound < 256) := lt_ofNat n bound small fits
  have equal (value : Nat) (fits : value < 256) := eq_ofNat n value small fits
  rw [start, same]
  simp only [← less 0x80 (by decide), ← less 0xC2 (by decide), ← less 0xE0 (by decide), ← less 0xF0 (by decide),
    ← less 0xF5 (by decide), ← equal 0xE0 (by decide), ← equal 0xED (by decide), ← equal 0xF0 (by decide),
    ← equal 0xF4 (by decide)]
  rfl

theorem step_within (text : String) (missing n bits : Nat) (least greatest : UInt8) (small : n < 256)
    (low : least.toNat ≤ n) (high : n ≤ greatest.toNat) (more : 1 < missing) :
    step (text, .within missing least greatest bits) (UInt8.ofNat n) =
      (text, .within (missing - 1) 0x80 0xBF (bits * 0x40 + (n - 0x80))) := by
  have same : (UInt8.ofNat n).toNat = n := UInt8.toNat_ofNat_of_lt' small
  have inside : least ≤ UInt8.ofNat n ∧ UInt8.ofNat n ≤ greatest := by
    rw [UInt8.le_iff_toNat_le, UInt8.le_iff_toNat_le, same]
    exact ⟨low, high⟩
  rw [step, Progress.feed, if_pos inside, if_neg (Nat.not_le.2 more), same]
  rfl

theorem step_last (text : String) (n bits : Nat) (small : n < 256) (low : 0x80 ≤ n) (high : n ≤ 0xBF) :
    step (text, .within 1 0x80 0xBF bits) (UInt8.ofNat n) =
      (text.push (Char.ofNat (bits * 0x40 + (n - 0x80))), .ready) := by
  have same : (UInt8.ofNat n).toNat = n := UInt8.toNat_ofNat_of_lt' small
  have inside : (0x80 : UInt8) ≤ UInt8.ofNat n ∧ UInt8.ofNat n ≤ 0xBF := by
    rw [UInt8.le_iff_toNat_le, UInt8.le_iff_toNat_le, same]
    exact ⟨low, high⟩
  rw [step, Progress.feed, if_pos inside, if_pos (Nat.le_refl 1), same]
  rfl

theorem step_ascii (text : String) (n : Nat) (small : n < 0x80) :
    step (text, .ready) (UInt8.ofNat n) = (text.push (Char.ofNat n), .ready) := by
  rw [step, Progress.feed, start_ofNat n (by omega), if_pos small]
  rfl

theorem step_two (text : String) (n : Nat) (low : 0xC2 ≤ n) (high : n < 0xE0) :
    step (text, .ready) (UInt8.ofNat n) = (text, .within 1 0x80 0xBF (n - 0xC0)) := by
  rw [step, Progress.feed, start_ofNat n (by omega), if_neg (by omega), if_neg (by omega), if_pos high]
  rfl

theorem step_three (text : String) (n : Nat) (low : 0xE0 ≤ n) (high : n < 0xF0) :
    step (text, .ready) (UInt8.ofNat n) =
      (text, .within 2 (if n = 0xE0 then 0xA0 else 0x80) (if n = 0xED then 0x9F else 0xBF) (n - 0xE0)) := by
  rw [step, Progress.feed, start_ofNat n (by omega), if_neg (by omega), if_neg (by omega), if_neg (by omega),
    if_pos high]
  rfl

theorem step_four (text : String) (n : Nat) (low : 0xF0 ≤ n) (high : n < 0xF5) :
    step (text, .ready) (UInt8.ofNat n) =
      (text, .within 3 (if n = 0xF0 then 0x90 else 0x80) (if n = 0xF4 then 0x8F else 0xBF) (n - 0xF0)) := by
  rw [step, Progress.feed, start_ofNat n (by omega), if_neg (by omega), if_neg (by omega), if_neg (by omega),
    if_neg (by omega), if_pos high]
  rfl

theorem decodes_code (code : Nat) (text : String) (range : code < 0xD800 ∨ 0xDFFF < code ∧ code < 0x110000) :
    (Units.codeBytes code).foldl step (text, .ready) = (text.push (Char.ofNat code), .ready) := by
  rw [Units.codeBytes]
  by_cases one : code < 0x80
  · rw [if_pos one, List.foldl_cons, List.foldl_nil, Nat.toUInt8_eq, step_ascii text code one]
  by_cases two : code < 0x800
  · have whole : (0xC0 + code / 0x40 - 0xC0) * 0x40 + (0x80 + code % 0x40 - 0x80) = code := by omega
    rw [if_neg one, if_pos two, List.foldl_cons, List.foldl_cons, List.foldl_nil, Nat.toUInt8_eq, Nat.toUInt8_eq,
      step_two text _ (by omega) (by omega), step_last text _ _ (by omega) (by omega) (by omega), whole]
  by_cases three : code < 0x10000
  · have whole : ((0xE0 + code / 0x1000 - 0xE0) * 0x40 + (0x80 + code / 0x40 % 0x40 - 0x80)) * 0x40 +
        (0x80 + code % 0x40 - 0x80) = code := by omega
    rw [if_neg one, if_neg two, if_pos three, List.foldl_cons, List.foldl_cons, List.foldl_cons, List.foldl_nil,
      Nat.toUInt8_eq, Nat.toUInt8_eq, Nat.toUInt8_eq, step_three text _ (by omega) (by omega),
      step_within text 2 _ _ _ _ (by omega) ?_ ?_ (by decide),
      step_last text _ _ (by omega) (by omega) (by omega), whole]
    · split
      · change 0xA0 ≤ _
        omega
      · change 0x80 ≤ _
        omega
    · split
      · change _ ≤ 0x9F
        omega
      · change _ ≤ 0xBF
        omega
  · have whole : (((0xF0 + code / 0x40000 - 0xF0) * 0x40 + (0x80 + code / 0x1000 % 0x40 - 0x80)) * 0x40 +
        (0x80 + code / 0x40 % 0x40 - 0x80)) * 0x40 + (0x80 + code % 0x40 - 0x80) = code := by omega
    rw [if_neg one, if_neg two, if_neg three, List.foldl_cons, List.foldl_cons, List.foldl_cons, List.foldl_cons,
      List.foldl_nil, Nat.toUInt8_eq, Nat.toUInt8_eq, Nat.toUInt8_eq, Nat.toUInt8_eq,
      step_four text _ (by omega) (by omega), step_within text 3 _ _ _ _ (by omega) ?_ ?_ (by decide),
      step_within text 2 _ _ _ _ (by omega) ?_ ?_ (by decide),
      step_last text _ _ (by omega) (by omega) (by omega), whole]
    · change 0x80 ≤ _
      omega
    · change _ ≤ 0xBF
      omega
    · split
      · change 0x90 ≤ _
        omega
      · change 0x80 ≤ _
        omega
    · split
      · change _ ≤ 0x8F
        omega
      · change _ ≤ 0xBF
        omega

theorem decodes_chars (chars : List Char) (text : String) :
    (chars.flatMap fun c => Units.codeBytes c.toNat).foldl step (text, .ready) =
      (chars.foldl String.push text, .ready) := by
  induction chars generalizing text with
  | nil => rfl
  | cons c chars ih =>
    rw [List.flatMap_cons, List.foldl_append, decodes_code _ _ (Text.toNat_cases c), Char.ofNat_toNat, ih,
      List.foldl_cons]

end Lossy

theorem toList_foldl_push (chars : List Char) (text : String) :
    (chars.foldl String.push text).toList = text.toList ++ chars := by
  induction chars generalizing text with
  | nil => exact (List.append_nil _).symm
  | cons c chars ih => rw [List.foldl_cons, ih, String.toList_push, List.append_assoc, List.singleton_append]

/-- A text enters as units and is read back as itself. -/
theorem Units.toText_ofString (text : String) : (Units.ofString text).toText = text := by
  have decoded : (Units.ofString text).toBytes.foldl Lossy.step ("", .ready) =
      (text.toList.foldl String.push "", .ready) := by
    rw [← Array.foldl_toList, toBytes_ofString, Lossy.decodes_chars]
  rw [toText, Lossy.decode, decoded]
  exact String.toList_inj.1 (toList_foldl_push text.toList "")

theorem Units.ofString_inj (first second : String) (same : Units.ofString first = Units.ofString second) :
    first = second := by
  rw [← Units.toText_ofString first, same, Units.toText_ofString]

end ScriptSandbox
