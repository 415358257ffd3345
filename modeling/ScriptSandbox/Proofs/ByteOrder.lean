import ScriptSandbox.Json.Basic

/-!
Texts in the order of their bytes. UTF-8 keeps the order of characters: of two characters the lesser one has
the lesser first byte, or the same bytes up to a lesser one. So a list sorted by text is sorted by bytes.
-/

namespace ScriptSandbox.Text

def bytes (text : String) : List UInt8 := text.toByteArray.data.toList

theorem bytes_eq (text : String) : bytes text = text.toList.flatMap String.utf8EncodeChar := by
  have same : text.toByteArray = (text.toList.flatMap String.utf8EncodeChar).toByteArray := by
    conv => lhs; rw [← String.ofList_toList (s := text)]
    exact String.toByteArray_ofList
  rw [bytes, same, List.toList_data_toByteArray]

theorem ofNat_cons_lt (m n : Nat) (front back : List UInt8) (small : m < 256) (bound : n < 256)
    (upTo : m ≤ n) (later : m = n → front < back) : UInt8.ofNat m :: front < UInt8.ofNat n :: back := by
  rw [List.cons_lt_cons_iff]
  obtain less | rfl := Nat.lt_or_eq_of_le upTo
  · left
    rw [UInt8.lt_iff_toNat_lt, UInt8.toNat_ofNat_of_lt' small, UInt8.toNat_ofNat_of_lt' bound]
    exact less
  · exact .inr ⟨rfl, later rfl⟩

theorem toNat_lt (c : Char) : c.toNat < 0x110000 := by
  have valid := c.valid
  simp only [UInt32.isValidChar, Nat.isValidChar] at valid
  change c.val.toNat < 0x110000
  omega

theorem utf8EncodeChar_lt (c d : Char) (front back : List UInt8) (less : c.toNat < d.toNat) :
    String.utf8EncodeChar c ++ front < String.utf8EncodeChar d ++ back := by
  have bound : d.val.toNat < 0x110000 := toNat_lt d
  change c.val.toNat < d.val.toNat at less
  rw [String.utf8EncodeChar.eq_1, String.utf8EncodeChar.eq_1]
  -- Only bytes in the same place are compared, and both characters have as many, or the first ones differ.
  repeat' split
  all_goals simp only [List.cons_append, List.nil_append]
  all_goals repeat first
    | omega
    | refine ofNat_cons_lt _ _ _ _ (by omega) (by omega) (by omega) fun same => ?_

theorem flatMap_lt (front back : List Char) (less : front < back) :
    front.flatMap String.utf8EncodeChar < back.flatMap String.utf8EncodeChar := by
  induction back generalizing front with
  | nil => exact absurd less (List.not_lt_nil front)
  | cons d back ih =>
    cases front with
    | nil =>
      cases written : String.utf8EncodeChar d with
      | nil => exact absurd written String.utf8EncodeChar_ne_nil
      | cons byte more =>
        rw [List.flatMap_cons, written]
        exact List.nil_lt_cons _ _
    | cons c front =>
      rw [List.flatMap_cons, List.flatMap_cons]
      obtain before | ⟨rfl, later⟩ := List.cons_lt_cons_iff.1 less
      · exact utf8EncodeChar_lt c d _ _ before
      · exact List.append_left_lt (ih front later)

theorem eq_of_not_lt (first second : String) (notLess : ¬ first < second) (notMore : ¬ second < first) :
    first = second := String.le_antisymm notMore notLess

theorem lt_iff_bytes_lt (first second : String) : first < second ↔ bytes first < bytes second := by
  have keeps (first second : String) (less : first < second) : bytes first < bytes second := by
    rw [bytes_eq, bytes_eq]
    exact flatMap_lt _ _ (String.lt_iff.1 less)
  refine ⟨keeps first second, fun less => ?_⟩
  by_cases before : first < second
  · exact before
  by_cases behind : second < first
  · exact absurd (keeps second first behind) (List.lt_asymm less)
  · rw [eq_of_not_lt first second before behind] at less
    exact absurd less (List.lt_irrefl _)

end ScriptSandbox.Text
