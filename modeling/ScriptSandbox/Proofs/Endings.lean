import ScriptSandbox.Proofs.Silence

/-!
Computations that end by themselves, without asking the host. A rule for each construct says how they end
from how their parts end: with a result for which something holds, or with a failure.
-/

namespace ScriptSandbox.Script.Execution

/-- A computation is over: a result and a machine are good, or a failure and its machine are bad. -/
inductive Ends (good : α → Machine → Prop) (bad : Machine → Prop) : Dialogue (Outcome α) → Prop
  | value (result : α) (after : Machine) (holds : good result after) : Ends good bad (.done (.value result after))
  | thrown (reason : Value) (after : Machine) (fails : bad after) : Ends good bad (.done (.thrown reason after))
  | stopped (reason : Stop) (after : Machine) (fails : bad after) : Ends good bad (.done (.stopped reason after))

theorem bind_value (first : Execution α) (next : α → Execution β) (before after : Machine) (result : α)
    (ended : first before = .done (.value result after)) : (first >>= next) before = next result after := by
  rw [bind_eq, ended]
  rfl

theorem bind_gets (look : Machine → α) (next : α → Execution β) (machine : Machine) (result : α)
    (same : look machine = result) : (gets look >>= next) machine = next result machine := by
  rw [← same]
  rfl

theorem charge_cases (size : Nat) (machine : Machine) :
    (charge size machine = note size machine ∧ ∀ limit, machine.limit = some limit → machine.charged + size ≤ limit) ∨
    (charge size machine = outOfMemory machine ∧ ∃ limit, machine.limit = some limit ∧ limit < machine.charged + size) := by
  unfold charge
  rw [bind_value get _ machine machine machine rfl]
  cases limited : machine.limit with
  | none => exact .inl ⟨rfl, fun limit same => absurd same (by simp)⟩
  | some limit =>
    by_cases over_ : limit < machine.charged + size
    · refine .inr ⟨?_, limit, rfl, over_⟩
      simp only [over_, if_true]
      rfl
    · refine .inl ⟨?_, fun other same => ?_⟩
      · simp only [over_, if_false]
      · cases same
        exact Nat.not_lt.1 over_

theorem bind_thrown (first : Execution α) (next : α → Execution β) (before after : Machine) (reason : Value)
    (failed : first before = .done (.thrown reason after)) :
    (first >>= next) before = .done (.thrown reason after) := by
  rw [bind_eq, failed]
  rfl

theorem Ends.weaken (good good' : α → Machine → Prop) (bad bad' : Machine → Prop) (dialogue : Dialogue (Outcome α))
    (ends : Ends good bad dialogue) (better : ∀ result after, good result after → good' result after)
    (worse : ∀ after, bad after → bad' after) : Ends good' bad' dialogue := by
  cases ends with
  | value result after holds => exact .value result after (better result after holds)
  | thrown reason after fails => exact .thrown reason after (worse after fails)
  | stopped reason after fails => exact .stopped reason after (worse after fails)

theorem Ends.of_eq (good : α → Machine → Prop) (bad : Machine → Prop) (dialogue : Dialogue (Outcome α)) (result : α)
    (after : Machine) (ended : dialogue = .done (.value result after)) (holds : good result after) :
    Ends good bad dialogue := by
  rw [ended]
  exact .value result after holds

theorem ends_bind (middle : α → Machine → Prop) (good : β → Machine → Prop) (bad : Machine → Prop)
    (first : Execution α) (next : α → Execution β) (before : Machine) (started : Ends middle bad (first before))
    (later : ∀ result after, middle result after → Ends good bad (next result after)) :
    Ends good bad ((first >>= next) before) := by
  rw [bind_eq]
  generalize first before = dialogue at started
  cases started with
  | value result after holds => exact later result after holds
  | thrown reason after fails => exact .thrown reason after fails
  | stopped reason after fails => exact .stopped reason after fails

theorem ends_iterate (holds : σ → Machine → Prop) (good : α → Machine → Prop) (bad : Machine → Prop)
    (step : σ → Execution (σ ⊕ α)) (count : Nat) (state : σ) (before : Machine) (starts : holds state before)
    (tires : ∀ state machine, holds state machine → bad machine)
    (steps : ∀ state machine, holds state machine →
      Ends (fun next after => match next with
        | .inl state => holds state after
        | .inr result => good result after) bad (step state machine)) :
    Ends good bad (iterate step count state before) := by
  induction count generalizing state before with
  | zero => exact .stopped .exhausted before (tires state before starts)
  | succ count ih =>
    rw [iterate_succ]
    refine ends_bind _ good bad (step state) _ before (steps state before starts) ?_
    intro next after going
    cases next with
    | inl state => exact ih state after going
    | inr result => exact .value result after going

/-! ### Computations at hand -/

def errorObject (cls : ErrorClass) (message : Units) : Object :=
  { kind := .error, parent := some cls.prototype.ref, extensible := true
    properties := (Properties.empty.insert (.ofString "message") (.hidden (.text message))).insert
      (.ofString "stack") (.hidden (.text traceText)) }

theorem throwNew_eq (cls : ErrorClass) (message : String) (before : Machine) :
    (throwNew cls message : Execution α) before = .done (.thrown (.object before.heap.size)
      { before with heap := before.heap.push (errorObject cls (Units.ofString message))
                    charged := before.charged + objectSize }) := rfl

theorem ends_throwNew (good : α → Machine → Prop) (bad : Machine → Prop) (cls : ErrorClass) (message : String)
    (before : Machine) (fails : bad { before with
      heap := before.heap.push (errorObject cls (Units.ofString message))
      charged := before.charged + objectSize }) : Ends good bad ((throwNew cls message : Execution α) before) := by
  rw [throwNew_eq]
  exact .thrown _ _ fails

end ScriptSandbox.Script.Execution
