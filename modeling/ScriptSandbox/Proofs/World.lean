import ScriptSandbox.Marshal
import ScriptSandbox.Proofs.Silence

/-!
Computations as steps between worlds. A world is a machine with the host that answers it; performing a
part of a walk takes a world to the next, and tells how the part ended. The rules for walks say what a
walk gives from what its parts give, together with the stack that it hands back.
-/

namespace ScriptSandbox

open Script Script.Execution

structure World where
  machine : Machine
  host : Host

inductive Fault where
  | thrown (reason : Value)
  | stopped (reason : Stop)

def Fault.ending : Fault → Ending α
  | .thrown reason => .thrown reason
  | .stopped reason => .stopped reason

namespace Script.Execution.Ending

def map (change : α → β) : Ending α → Ending β
  | .value result => .value (change result)
  | .thrown reason => .thrown reason
  | .stopped reason => .stopped reason

def outcome (machine : Machine) : Ending α → Outcome α
  | .value result => .value result machine
  | .thrown reason => .thrown reason machine
  | .stopped reason => .stopped reason machine

theorem map_fault (change : α → β) (fault : Fault) : (fault.ending : Ending α).map change = fault.ending := by
  cases fault <;> rfl

theorem map_id (ending : Ending α) : (ending.map fun result => result) = ending := by
  cases ending <;> rfl

theorem map_map (first : α → β) (second : β → γ) (ending : Ending α) :
    (ending.map first).map second = ending.map fun result => second (first result) := by
  cases ending <;> rfl

theorem map_eq_value (change : α → β) (ending : Ending α) (result : β)
    (same : ending.map change = .value result) : ∃ before, ending = .value before ∧ change before = result := by
  cases ending with
  | value before => exact ⟨before, rfl, Ending.value.inj same⟩
  | thrown reason => cases same
  | stopped reason => cases same

theorem fault_ne_value (fault : Fault) (result : α) : (fault.ending : Ending α) ≠ .value result := by
  cases fault <;> nofun

theorem outcome_inj (first second : Ending α) (before after : Machine)
    (same : first.outcome before = second.outcome after) : first = second ∧ before = after := by
  cases first <;> cases second <;> cases same <;> exact ⟨rfl, rfl⟩

theorem value_or_fault (ending : Ending α) :
    (∃ result, ending = .value result) ∨ ∃ fault : Fault, ending = fault.ending := by
  cases ending with
  | value result => exact .inl ⟨result, rfl⟩
  | thrown reason => exact .inr ⟨.thrown reason, rfl⟩
  | stopped reason => exact .inr ⟨.stopped reason, rfl⟩

end Script.Execution.Ending

/-- How a part ends in a world, and the world after it. A part that does not end with a result leaves
calls behind, which are forgotten. -/
def perform (clock : Clock) (part : Execution α) (world : World) : Ending α × World :=
  match Host.converse clock (part world.machine) world.host with
  | (.value result machine, host) => (.value result, ⟨machine, host⟩)
  | (.thrown reason machine, host) =>
    (.thrown reason, ⟨{ machine with depth := world.machine.depth, waiting := world.machine.waiting }, host⟩)
  | (.stopped reason machine, host) =>
    (.stopped reason, ⟨{ machine with depth := world.machine.depth, waiting := world.machine.waiting }, host⟩)

theorem converse_attempt (clock : Clock) (part : Execution α) (world : World) :
    Host.converse clock (attempt part world.machine) world.host =
      (.value (perform clock part world).1 (perform clock part world).2.machine,
        (perform clock part world).2.host) := by
  rw [attempt, Host.converse_bind, perform]
  obtain ⟨outcome, host⟩ := Host.converse clock (part world.machine) world.host
  cases outcome <;> rfl

theorem converse_bind_value (clock : Clock) (first : Execution α) (next : α → Execution β) (result : α)
    (before after : World)
    (ended : Host.converse clock (first before.machine) before.host = (.value result after.machine, after.host)) :
    Host.converse clock ((first >>= next) before.machine) before.host =
      Host.converse clock (next result after.machine) after.host := by
  rw [bind_eq, Host.converse_bind, ended]
  rfl

namespace Walk

/-- What a walk gives: how it ends, the stack that it hands back, and the world after it. -/
def Gives (clock : Clock) (walk : Walk α) (stack : List Ref) (world : World) (ending : Ending α)
    (left : List Ref) (after : World) : Prop :=
  Host.converse clock (walk stack world.machine) world.host = (.value (ending, left) after.machine, after.host)

section

variable (clock : Clock)

theorem gives_pure (result : α) (stack : List Ref) (world : World) :
    Gives clock (pure result) stack world (.value result) stack world := rfl

theorem gives_ancestors (stack : List Ref) (world : World) :
    Gives clock ancestors stack world (.value stack) stack world := rfl

theorem gives_of (part : Execution α) (stack : List Ref) (world after : World) (ending : Ending α)
    (performed : perform clock part world = (ending, after)) :
    Gives clock (of part) stack world ending stack after := by
  have attempted := converse_attempt clock part world
  rw [performed] at attempted
  exact converse_bind_value clock (attempt part) _ ending world after attempted

theorem gives_bind (first : Walk α) (next : α → Walk β) (stack middle left : List Ref)
    (before between after : World) (result : α) (ending : Ending β)
    (started : Gives clock first stack before (.value result) middle between)
    (ended : Gives clock (next result) middle between ending left after) :
    Gives clock (first >>= next) stack before ending left after :=
  (converse_bind_value clock (first stack) _ (.value result, middle) before between started).trans ended

theorem gives_bind_fault (first : Walk α) (next : α → Walk β) (stack left : List Ref)
    (before after : World) (fault : Fault)
    (failed : Gives clock first stack before fault.ending left after) :
    Gives clock (first >>= next) stack before fault.ending left after := by
  refine (converse_bind_value clock (first stack) _ (fault.ending, left) before after failed).trans ?_
  cases fault <;> rfl

theorem gives_map (first : Walk α) (change : α → β) (stack left : List Ref) (before after : World)
    (ending : Ending α) (ended : Gives clock first stack before ending left after) :
    Gives clock (first >>= fun result => pure (change result)) stack before (ending.map change) left after := by
  obtain ⟨result, rfl⟩ | ⟨fault, rfl⟩ := ending.value_or_fault
  · exact gives_bind clock first _ stack left left before after after result _ ended (gives_pure clock _ _ _)
  · rw [Ending.map_fault]
    exact gives_bind_fault clock first _ stack left before after fault ended

theorem gives_inside (array : Ref) (part : Walk α) (stack : List Ref) (before after : World)
    (ending : Ending α) (ended : Gives clock part (array :: stack) before ending (array :: stack) after) :
    Gives clock (inside array part) stack before ending stack after :=
  converse_bind_value clock (part (array :: stack)) _ (ending, array :: stack) before after ended

theorem gives_iterate_next (step : σ → Walk (σ ⊕ α)) (count : Nat) (state later : σ)
    (stack middle left : List Ref) (before between after : World) (ending : Ending α)
    (stepped : Gives clock (step state) stack before (.value (.inl later)) middle between)
    (ended : Gives clock (iterate step count later) middle between ending left after) :
    Gives clock (iterate step (count + 1) state) stack before ending left after := by
  unfold Gives iterate
  rw [iterate_succ, bind_eq, Host.converse_bind]
  have turned : Host.converse clock (turn step (state, stack) before.machine) before.host =
      (.value (.inl (later, middle)) between.machine, between.host) :=
    converse_bind_value clock (step state stack) _ (.value (.inl later), middle) before between stepped
  rw [turned]
  exact ended

theorem gives_iterate_done (step : σ → Walk (σ ⊕ α)) (count : Nat) (state : σ) (stack left : List Ref)
    (before after : World) (result : α)
    (stepped : Gives clock (step state) stack before (.value (.inr result)) left after) :
    Gives clock (iterate step (count + 1) state) stack before (.value result) left after := by
  unfold Gives iterate
  rw [iterate_succ, bind_eq, Host.converse_bind]
  have turned : Host.converse clock (turn step (state, stack) before.machine) before.host =
      (.value (.inr (.value result, left)) after.machine, after.host) :=
    converse_bind_value clock (step state stack) _ (.value (.inr result), left) before after stepped
  rw [turned]
  rfl

theorem gives_iterate_fault (step : σ → Walk (σ ⊕ α)) (count : Nat) (state : σ) (stack left : List Ref)
    (before after : World) (fault : Fault)
    (failed : Gives clock (step state) stack before fault.ending left after) :
    Gives clock (iterate step (count + 1) state) stack before fault.ending left after := by
  unfold Gives iterate
  rw [iterate_succ, bind_eq, Host.converse_bind]
  have turned : Host.converse clock (turn step (state, stack) before.machine) before.host =
      (.value (.inr (fault.ending, left)) after.machine, after.host) := by
    refine (converse_bind_value clock (step state stack) _ (fault.ending, left) before after failed).trans ?_
    cases fault <;> rfl
  rw [turned]
  rfl

end

end Walk

end ScriptSandbox
