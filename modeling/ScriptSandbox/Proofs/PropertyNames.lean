import Mathlib.Data.List.Induction
import ScriptSandbox.HostValue
import ScriptSandbox.Proofs.Untouched

/-!
The names of properties. Different texts name different properties, also those that write the number of an index, so
a map has as many names as its keys have texts.
-/

namespace ScriptSandbox

namespace Script

namespace Key

/-! ### The texts of indices -/

def number (digits : List UInt16) : Nat := digits.foldl (fun n unit => n * 10 + (unit.toNat - 48)) 0

/-- Digits as they are written: without a zero in front. -/
structure Written (digits : List UInt16) : Prop where
  each : ∀ unit ∈ digits, 48 ≤ unit.toNat ∧ unit.toNat ≤ 57
  front : digits.head? ≠ some 48

theorem number_snoc (digits : List UInt16) (last : UInt16) :
    number (digits ++ [last]) = number digits * 10 + (last.toNat - 48) := by
  simp [number, List.foldl_append]

theorem Written.init (digits : List UInt16) (last : UInt16) (written : Written (digits ++ [last])) : Written digits := by
  refine ⟨fun unit among => written.each unit (List.mem_append_left _ among), fun zero => written.front ?_⟩
  rw [List.head?_append, zero]
  rfl

theorem number_pos (digits : List UInt16) (written : Written digits) (some_ : digits ≠ []) : 0 < number digits := by
  induction digits using List.reverseRecOn with
  | nil => exact absurd rfl some_
  | append_singleton digits last ih =>
    rw [number_snoc]
    by_cases single : digits = []
    · subst single
      have bounds := written.each last (by simp)
      have other : last.toNat ≠ 48 := fun same => written.front (by simpa using UInt16.toNat.inj same)
      omega
    · have more := ih (written.init digits last) single
      omega

theorem number_inj (first second : List UInt16) (written : Written first) (written' : Written second)
    (same : number first = number second) : first = second := by
  induction first using List.reverseRecOn generalizing second with
  | nil =>
    by_contra other
    have positive := number_pos second written' (Ne.symm other)
    rw [← same] at positive
    exact Nat.lt_irrefl 0 positive
  | append_singleton first last ih =>
    rcases List.eq_nil_or_concat second with rfl | ⟨others, last', rfl⟩
    · have positive := number_pos _ written (by simp)
      rw [same] at positive
      exact absurd positive (Nat.lt_irrefl 0)
    · rw [List.concat_eq_append] at written' same ⊢
      rw [number_snoc, number_snoc] at same
      have bounds := written.each last (by simp)
      have bounds' := written'.each last' (by simp)
      have front := ih others (written.init first last) (written'.init others last') (by omega)
      have ends : last = last' := UInt16.toNat.inj (by omega)
      rw [front, ends]

theorem indexOf?_cases (text : Units) (n : Nat) (found : indexOf? text = some n) :
    text.toList = [48] ∧ n = 0 ∨ text.toList ≠ [] ∧ Written text.toList ∧ n = number text.toList := by
  unfold indexOf? at found
  split at found
  · cases found
  · next short =>
    split at found
    · next zero =>
      split at found
      · next single =>
        cases found
        left
        obtain ⟨unit, rfl⟩ := Array.size_eq_one_iff.1 single
        simpa using zero
      · cases found
    · next front =>
      split at found
      · next digits =>
        dsimp only at found
        split at found
        · cases found
          right
          simp only [Bool.or_eq_true, decide_eq_true_eq, not_or] at short
          refine ⟨?_, ⟨?_, ?_⟩, ?_⟩
          · intro empty
            rw [Array.toList_eq_nil_iff] at empty
            exact short.1 (by simp [empty])
          · intro unit among
            have digit := (Array.all_eq_true'.1 digits) unit (Array.mem_toList_iff.1 among)
            simp only [Bool.and_eq_true, decide_eq_true_eq] at digit
            exact ⟨UInt16.le_iff_toNat_le.1 digit.1, UInt16.le_iff_toNat_le.1 digit.2⟩
          · intro zero
            apply front
            rw [List.head?_eq_getElem?, Array.getElem?_toList] at zero
            simp [zero]
          · rw [number, Array.foldl_toList]
        · cases found
      · cases found

theorem indexOf?_inj (first second : Units) (n : Nat) (found : indexOf? first = some n)
    (found' : indexOf? second = some n) : first = second := by
  apply Array.toList_inj.1
  rcases indexOf?_cases first n found with ⟨zero, rfl⟩ | ⟨some_, written, rfl⟩
  · rcases indexOf?_cases second 0 found' with ⟨zero', -⟩ | ⟨some', written', same⟩
    · rw [zero, zero']
    · exact absurd (number_pos _ written' some') (by omega)
  · rcases indexOf?_cases second _ found' with ⟨zero', same⟩ | ⟨some', written', same⟩
    · exact absurd (number_pos _ written some_) (by omega)
    · exact number_inj _ _ written written' same

theorem ofUnits_inj (first second : Units) (same : ofUnits first = ofUnits second) : first = second := by
  unfold ofUnits at same
  cases index : indexOf? first with
  | none =>
    cases index' : indexOf? second with
    | none =>
      rw [index, index'] at same
      exact Key.name.inj same
    | some n' =>
      rw [index, index'] at same
      cases same
  | some n =>
    cases index' : indexOf? second with
    | none =>
      rw [index, index'] at same
      cases same
    | some n' =>
      rw [index, index'] at same
      cases same
      exact indexOf?_inj first second n index index'

theorem ofString_inj (first second : String) : ofString first = ofString second ↔ first = second := by
  constructor
  · intro same
    exact Units.ofString_inj first second (ofUnits_inj _ _ same)
  · rintro rfl
    rfl

theorem ofString_ne_secret (text : String) (id : Nat) : ofString text ≠ .secret id := by
  unfold ofString ofUnits
  split <;> exact Key.noConfusion

end Key

end Script

namespace HostValue

/-! ### The names of a map -/

/-- The texts of the keys of a map, each once, in the order in which they first occur. -/
def names : List (HostValue × HostValue) → List String
  | [] => []
  | (key, _) :: rest => key.keyText :: (names rest).filter (· ≠ key.keyText)

def lastWith (text : String) : List (HostValue × HostValue) → Option HostValue
  | [] => none
  | (key, item) :: rest =>
    match lastWith text rest with
    | some later => some later
    | none => if key.keyText = text then some item else none

theorem mem_names_iff (text : String) (entries : List (HostValue × HostValue)) :
    text ∈ names entries ↔ ∃ entry ∈ entries, entry.1.keyText = text := by
  induction entries with
  | nil => simp [names]
  | cons entry rest ih =>
    obtain ⟨key, item⟩ := entry
    rw [names, List.mem_cons, List.mem_filter, ih]
    simp only [decide_eq_true_eq, List.mem_cons, exists_eq_or_imp, eq_comm (a := key.keyText)]
    tauto

theorem mem_of_lastWith (text : String) (entries : List (HostValue × HostValue)) (item : HostValue)
    (last : lastWith text entries = some item) : ∃ entry ∈ entries, entry.1.keyText = text ∧ entry.2 = item := by
  induction entries with
  | nil => cases last
  | cons entry rest ih =>
    obtain ⟨key, first⟩ := entry
    rw [lastWith] at last
    cases later : lastWith text rest with
    | some other =>
      rw [later] at last
      cases last
      obtain ⟨entry, among, found⟩ := ih later
      exact ⟨entry, List.mem_cons_of_mem _ among, found⟩
    | none =>
      rw [later] at last
      simp only [Option.ite_none_right_eq_some, Option.some.injEq] at last
      exact ⟨(key, first), List.mem_cons_self, last⟩

theorem lastWith_isSome_iff (text : String) (entries : List (HostValue × HostValue)) :
    (lastWith text entries).isSome = true ↔ text ∈ names entries := by
  rw [mem_names_iff]
  induction entries with
  | nil => simp [lastWith]
  | cons entry rest ih =>
    obtain ⟨key, item⟩ := entry
    rw [lastWith]
    cases later : lastWith text rest with
    | some last =>
      rw [later] at ih
      simp only [Option.isSome_some, List.mem_cons, exists_eq_or_imp, true_iff] at ih ⊢
      exact .inr ih
    | none =>
      rw [later] at ih
      simp only [Option.isSome_none, Bool.false_eq_true, false_iff] at ih
      simp only [List.mem_cons, exists_eq_or_imp, ih, or_false]
      split <;> simp_all

end HostValue

end ScriptSandbox
