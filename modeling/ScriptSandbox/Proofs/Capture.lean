import ScriptSandbox.Console

/-!
What a console holds: the start of everything that was written since it was last reset, as far as it fits
under the cap. The flag tells whether that is less than everything. Neither depends on how the writing was
split up, nor on what came before the reset.
-/

namespace ScriptSandbox.Console

/-- A console that holds what fits of some bytes, and knows whether any are missing. -/
structure Holds (console : Console) (written : List UInt8) : Prop where
  bytes : console.bytes.toList = written.take console.limit
  truncated : console.truncated = decide (console.limit < written.length)

theorem holds_empty (limit : Nat) : (empty limit).Holds [] where
  bytes := List.take_nil.symm
  truncated := rfl

theorem holds_reset (console : Console) : console.reset.Holds [] where
  bytes := List.take_nil.symm
  truncated := rfl

theorem size_of_holds (console : Console) (written : List UInt8) (holds : console.Holds written) :
    console.bytes.size = min console.limit written.length := by
  rw [← Array.length_toList, holds.bytes, List.length_take]

theorem limit_append (console : Console) (data : Array UInt8) :
    (console.append data).limit = console.limit := by
  unfold append appendIf
  split
  · rfl
  split
  · rfl
  · dsimp only
    split
    · rfl
    · split <;> rfl

theorem append_of_room (console : Console) (data : Array UInt8) (nonempty : data.isEmpty = false)
    (room : console.bytes.size < console.limit) :
    (console.append data).bytes = console.bytes ++ data.extract 0 (console.fitting data) ∧
      (console.append data).truncated = (console.truncated || console.fitting data < data.size) := by
  have notFull : ¬ console.limit ≤ console.bytes.size := Nat.not_le_of_lt room
  unfold append appendIf
  rw [nonempty, if_neg Bool.false_ne_true, if_neg notFull]
  dsimp only
  split
  · exact ⟨rfl, rfl⟩
  · rw [if_pos rfl]
    exact ⟨rfl, rfl⟩

theorem append_of_full (console : Console) (data : Array UInt8) (nonempty : data.isEmpty = false)
    (full : console.limit ≤ console.bytes.size) :
    console.append data = { console with truncated := true } := by
  unfold append appendIf
  rw [nonempty, if_neg Bool.false_ne_true, if_pos full]

/-- The step of the invariant: what is appended counts as written, whether it fits or not. -/
theorem holds_append (console : Console) (written : List UInt8) (data : Array UInt8)
    (holds : console.Holds written) : (console.append data).Holds (written ++ data.toList) := by
  have size := size_of_holds console written holds
  have limit := limit_append console data
  cases nothing : data.isEmpty with
  | true =>
    have empty : data = #[] := Array.isEmpty_iff.1 nothing
    subst empty
    simpa [append, appendIf] using holds
  | false =>
    have positive : 0 < data.size := Array.size_pos_iff.2 (by simpa using nothing)
    have length : (written ++ data.toList).length = written.length + data.size := by
      simp only [List.length_append, Array.length_toList]
    by_cases full : console.limit ≤ console.bytes.size
    · have enough : console.limit ≤ written.length := by omega
      rw [append_of_full console data nothing full]
      constructor
      · change console.bytes.toList = (written ++ data.toList).take console.limit
        rw [holds.bytes, List.take_append_of_le_length enough]
      · change true = decide (console.limit < (written ++ data.toList).length)
        exact (decide_eq_true (by omega)).symm
    · have under : written.length < console.limit := by omega
      have whole : console.bytes.toList = written := by
        rw [holds.bytes, List.take_of_length_le (by omega)]
      have complete : console.truncated = false := by
        rw [holds.truncated]
        exact decide_eq_false (by omega)
      obtain ⟨bytes, truncated⟩ := append_of_room console data nothing (Nat.lt_of_not_le full)
      constructor
      · rw [bytes, limit, Array.toList_append, whole, Array.toList_extract, List.take_append,
          List.take_of_length_le (Nat.le_of_lt under)]
        simp only [fitting, List.extract_eq_take_drop, List.drop_zero, Nat.sub_zero]
        rw [show console.bytes.size = written.length by omega, Nat.min_comm, ← List.take_take,
          ← Array.length_toList, List.take_length]
      · rw [truncated, limit, complete, Bool.false_or, length]
        refine decide_eq_decide.2 ?_
        unfold fitting
        omega

/-! ### A whole history -/

inductive Act where
  | append (data : Array UInt8)
  | reset

def act (console : Console) : Act → Console
  | .append data => console.append data
  | .reset => console.reset

def after (limit : Nat) (history : List Act) : Console := history.foldl act (empty limit)

def note (written : List UInt8) : Act → List UInt8
  | .append data => written ++ data.toList
  | .reset => []

def written (history : List Act) : List UInt8 := history.foldl note []

theorem limit_act (console : Console) (next : Act) : (console.act next).limit = console.limit := by
  cases next with
  | append data => exact limit_append console data
  | reset => rfl

theorem holds_act (console : Console) (before : List UInt8) (next : Act) (holds : console.Holds before) :
    (console.act next).Holds (note before next) := by
  cases next with
  | append data => exact holds_append console before data holds
  | reset => exact holds_reset console

theorem holds_acts (console : Console) (before : List UInt8) (history : List Act)
    (holds : console.Holds before) :
    (history.foldl act console).Holds (history.foldl note before) ∧
      (history.foldl act console).limit = console.limit := by
  induction history generalizing console before with
  | nil => exact ⟨holds, rfl⟩
  | cons next rest ih =>
    obtain ⟨held, limit⟩ := ih (console.act next) (note before next) (holds_act console before next holds)
    exact ⟨held, limit.trans (limit_act console next)⟩

theorem note_appends (before : List UInt8) (pieces : List (Array UInt8)) :
    (pieces.map Act.append).foldl note before = before ++ pieces.flatMap Array.toList := by
  induction pieces generalizing before with
  | nil => simp
  | cons piece rest ih =>
    change (rest.map Act.append).foldl note (before ++ piece.toList) = _
    rw [ih, List.flatMap_cons, List.append_assoc]

/-- Whatever was done to a console, it holds the start of what was written since the last reset, up to its
cap, and its flag tells whether more was written. That is all that can be told from it: two histories which
wrote the same since their last resets leave the same bytes and the same flag, and what was written is
nothing but the pieces put together. -/
theorem after_holds_prefix (limit : Nat) (history : List Act) :
    (after limit history).bytes.toList = (written history).take (min (written history).length limit) ∧
    ((after limit history).truncated = true ↔ limit < (written history).length) ∧
    (∀ other, written other = written history → (after limit other).bytes = (after limit history).bytes ∧
      (after limit other).truncated = (after limit history).truncated) ∧
    (∀ before (pieces : List (Array UInt8)), (before = [] ∨ before.getLast? = some .reset) →
      written (before ++ pieces.map .append) = pieces.flatMap Array.toList) := by
  have held (acts : List Act) : (after limit acts).bytes.toList = (written acts).take limit ∧
      (after limit acts).truncated = decide (limit < (written acts).length) := by
    obtain ⟨holds, same⟩ := holds_acts (empty limit) [] acts (holds_empty limit)
    have bytes := holds.bytes
    have truncated := holds.truncated
    rw [same] at bytes truncated
    exact ⟨bytes, truncated⟩
  obtain ⟨bytes, truncated⟩ := held history
  refine ⟨?_, ?_, ?_, ?_⟩
  · rw [bytes, Nat.min_comm, ← List.take_take, List.take_length]
  · rw [truncated, decide_eq_true_eq]
  · intro other same
    obtain ⟨bytes', truncated'⟩ := held other
    rw [same] at bytes' truncated'
    exact ⟨Array.toList_inj.1 (bytes'.trans bytes.symm), truncated'.trans truncated.symm⟩
  · intro before pieces fresh
    have forgotten : written before = [] := by
      obtain rfl | last := fresh
      · rfl
      · obtain ⟨earlier, rfl⟩ := List.getLast?_eq_some_iff.1 last
        rw [written, List.foldl_append]
        rfl
    rw [written, List.foldl_append, note_appends]
    exact congrArg (· ++ _) forgotten

end ScriptSandbox.Console
