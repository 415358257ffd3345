import ScriptSandbox.Proofs.Endings
import ScriptSandbox.Proofs.Steps
import ScriptSandbox.Script.Interpreter

/-!
The loop of an interpreter, turn by turn. A call goes through quiet turns, turns that compute something, and turns that
call a function of the library, for which it waits. As long as no other call comes on top of it and none of its turns
fails, these follow each other, with what the host does on them in order.
-/

namespace ScriptSandbox

open Script Script.Execution

def World.awaiting (world : World) (calls : List Frame) : World :=
  { world with machine := { world.machine with waiting := calls :: world.machine.waiting } }

def World.released (before after : World) : World :=
  { after with machine := { after.machine with waiting := before.machine.waiting } }

namespace Script

section

variable (clock : Clock) (part : Execution α) (next : α → Execution β) (failed : Value → Execution β)

def follows : Outcome α → Dialogue (Outcome β)
  | .value result machine => next result machine
  | .thrown reason machine => failed reason machine
  | .stopped reason machine => .done (.stopped reason machine)

theorem after_eq (dialogue : Dialogue (Outcome α)) :
    after dialogue next failed = dialogue.bind (follows next failed) := by
  cases dialogue with
  | done outcome => cases outcome <;> rfl
  | ask question rest => rfl

variable (turn : Execution β) (start : Machine) (before between last : World) (ending : Ending β)
  (effects effects' : List Host.Effect) (same : turn before.machine = after (part start) next failed)

include same

theorem runs_after (result : α) (runs : Runs clock part ⟨start, before.host⟩ (.value result) between effects)
    (goesOn : Runs clock (next result) between ending last effects') :
    Runs clock turn before ending last (effects ++ effects') := by
  constructor
  · rw [same, after_eq, Host.converse_bind, runs.ends]
    exact goesOn.ends
  · rw [same, after_eq, Host.effects_bind, runs.does, runs.ends]
    exact congrArg (effects ++ ·) goesOn.does

theorem runs_after_thrown (reason : Value) (runs : Runs clock part ⟨start, before.host⟩ (.thrown reason) between effects)
    (goesOn : Runs clock (failed reason) between ending last effects') :
    Runs clock turn before ending last (effects ++ effects') := by
  constructor
  · rw [same, after_eq, Host.converse_bind, runs.ends]
    exact goesOn.ends
  · rw [same, after_eq, Host.effects_bind, runs.does, runs.ends]
    exact congrArg (effects ++ ·) goesOn.does

end

/-! ### Calls of the library -/

/-- What comes before a call: memory is measured or the host is asked, where it is time to. -/
def pause (calls : List Frame) : Execution Unit := fun machine =>
  if Memory.isDue machine then
    let (machine, full) := Memory.measure machine calls
    if full then outOfMemory machine else .done (.value () machine)
  else if machine.patience = 0 then
    .ask .interrupt fun stop =>
      if stop then .done (.stopped .interrupted { machine with patience })
      else .done (.value () { machine with patience })
  else .done (.value () { machine with patience := machine.patience - 1 })

theorem counted_eq (frame : Frame) (callers : List Frame) (machine : Machine) (next : Execution Turn) :
    counted frame callers machine next =
      after (pause (frame :: callers) machine) (fun _ => next) (throwAt (frame :: callers)) := by
  unfold counted pause
  by_cases due : Memory.isDue machine = true
  · rw [if_pos due, if_pos due]
    rcases Memory.measure machine (frame :: callers) with ⟨measured, full⟩
    cases full <;> rfl
  · rw [if_neg due, if_neg due]
    by_cases patient : machine.patience = 0
    · rw [if_pos patient, if_pos patient]
      refine congrArg (Dialogue.ask Question.interrupt) (funext fun stop => ?_)
      cases stop <;> rfl
    · rw [if_neg patient, if_neg patient]
      rfl

section

variable (clock : Clock) (frame : Frame) (callers : List Frame) (takes : Nat) (before answered last : World)
  (effects effects' : List Host.Effect)
  (kept : answered.machine.waiting = (frame.drop takes :: callers) :: before.machine.waiting)

include kept

theorem runs_resumed (next : Frame → List Frame → Execution Turn) (ending : Ending Turn)
    (goesOn : Runs clock (next (frame.drop takes) callers) (before.released answered) ending last effects) :
    Runs clock (fun machine => resumed machine next) answered ending last effects := by
  have same : resumed answered.machine next = next (frame.drop takes) callers (before.released answered).machine := by
    rw [resumed, kept]
    rfl
  constructor
  · rw [same]
    exact goesOn.ends
  · rw [same]
    exact goesOn.does

variable (part : Execution Entered)

theorem runs_begin (result : Value)
    (runs : Runs clock part (before.awaiting (frame.drop takes :: callers)) (.value (.result result)) answered effects) :
    Runs clock (begin frame callers takes part) before (.value (.next ((frame.drop takes).push result) callers))
      (before.released answered) effects := by
  rw [← List.append_nil effects]
  refine runs_after clock part _ _ (begin frame callers takes part) _ before answered _ _ effects [] rfl _ runs ?_
  exact runs_resumed clock frame callers takes before answered _ [] kept _ _ ⟨rfl, rfl⟩

theorem runs_begin_thrown (reason : Value) (ending : Ending Turn)
    (runs : Runs clock part (before.awaiting (frame.drop takes :: callers)) (.thrown reason) answered effects)
    (goesOn : Runs clock (throwAt (frame.drop takes :: callers) reason) (before.released answered) ending last effects') :
    Runs clock (begin frame callers takes part) before ending last (effects ++ effects') := by
  refine runs_after_thrown clock part _ _ (begin frame callers takes part) _ before answered last ending effects effects'
    rfl reason runs ?_
  exact runs_resumed clock frame callers takes before answered last effects' kept _ ending goesOn

end

section

variable [Engine] [Catalog] (clock : Clock) (callers : List Frame)

/-! ### Turns in a row -/

def proceed (steps : Nat) : Turn → Execution Exit
  | .next frame callers => loop steps frame callers
  | .ended exit => pure exit

theorem loop_succ (steps : Nat) (frame : Frame) (callers : List Frame) :
    (loop (steps + 1) frame callers : Execution Exit) = (step frame callers >>= proceed steps) := by
  funext machine
  rw [bind_eq, loop]
  cases step frame callers machine with
  | done outcome =>
    cases outcome with
    | value turn machine => cases turn <;> rfl
    | thrown reason machine => rfl
    | stopped reason machine => rfl
  | ask question rest =>
    refine congrArg (Dialogue.ask question) (funext fun answer => congrArg (rest answer).bind (funext fun outcome => ?_))
    cases outcome with
    | value turn machine => cases turn <;> rfl
    | thrown reason machine => rfl
    | stopped reason machine => rfl

theorem loop_of_value (steps : Nat) (frame : Frame) (callers : List Frame) (machine after : Machine) (turn : Turn)
    (turns : step frame callers machine = .done (.value turn after)) :
    loop (steps + 1) frame callers machine = proceed steps turn after := by
  rw [loop_succ]
  exact bind_value (step frame callers) (proceed steps) machine after turn turns

/-- So many turns of a call while the calls that wait for it stay the same, up to one that ends in some way. -/
inductive Goes : Nat → Frame → World → Ending Turn → World → List Host.Effect → Prop
  | last (frame : Frame) (before after : World) (ending : Ending Turn) (effects : List Host.Effect)
    (runs : Runs clock (step frame callers) before ending after effects) : Goes 1 frame before ending after effects
  | turn (count : Nat) (frame next : Frame) (before between after : World) (ending : Ending Turn)
    (effects effects' : List Host.Effect)
    (runs : Runs clock (step frame callers) before (.value (.next next callers)) between effects)
    (rest : Goes count next between ending after effects') :
    Goes (count + 1) frame before ending after (effects ++ effects')

/-- The loop takes these turns, and then does what the last one says. -/
theorem Goes.loop (count steps : Nat) (frame : Frame) (before after last : World) (turn : Turn) (ending : Ending Exit)
    (effects effects' : List Host.Effect) (goes : Goes clock callers count frame before (.value turn) after effects)
    (goesOn : Runs clock (proceed steps turn) after ending last effects') :
    Runs clock (loop (steps + count) frame callers : Execution Exit) before ending last (effects ++ effects') := by
  generalize same : Ending.value turn = final at goes
  induction goes with
  | last frame before after final effects runs =>
    subst same
    rw [loop_succ]
    exact runs_bind clock _ _ before after last turn _ effects effects' runs goesOn
  | turn count frame next before between after final effects effects'' runs rest ih =>
    rw [← Nat.add_assoc, loop_succ, List.append_assoc]
    exact runs_bind clock _ _ before between last _ _ effects _ runs (ih goesOn same)

variable (count : Nat) (frame : Frame) (before between last : World) (ending : Ending Turn)
  (effects effects' : List Host.Effect)

theorem Goes.quietly (next : Frame) (same : step frame callers before.machine = goOn next callers before.machine)
    (rest : Goes clock callers count next before ending last effects) :
    Goes clock callers (count + 1) frame before ending last effects :=
  .turn count frame next before before last ending [] effects (runs_done clock _ before _ _ same) rest

theorem Goes.performs (takes : Nat) (part : Execution Pushed) (pushed : Pushed)
    (same : ∀ machine, step frame callers machine =
      after (part machine) (fun pushed => goOn (frame.finish takes pushed) callers) (throwAt (frame :: callers)))
    (runs : Runs clock part before (.value pushed) between effects)
    (rest : Goes clock callers count (frame.finish takes pushed) between ending last effects') :
    Goes clock callers (count + 1) frame before ending last (effects ++ effects') := by
  have taken : Runs clock (step frame callers) before (.value (.next (frame.finish takes pushed) callers)) between
      (effects ++ []) :=
    runs_after clock part _ _ _ before.machine before between between _ effects [] (same _) pushed runs ⟨rfl, rfl⟩
  rw [List.append_nil] at taken
  exact .turn count frame _ before between last ending effects effects' taken rest

theorem Goes.pushes (takes : Nat) (part : Execution α) (value : α → Value) (result : α)
    (same : ∀ machine, step frame callers machine =
      after ((part >>= fun result => pure (.one (value result)) : Execution Pushed) machine)
        (fun pushed => goOn (frame.finish takes pushed) callers) (throwAt (frame :: callers)))
    (runs : Runs clock part before (.value result) between effects)
    (rest : Goes clock callers count (frame.finish takes (.one (value result))) between ending last effects') :
    Goes clock callers (count + 1) frame before ending last (effects ++ effects') :=
  .performs clock callers count frame before between last ending effects effects' takes _ (.one (value result)) same
    (runs_bind_pure clock part _ before between result _ effects runs rfl) rest

end

end Script

end ScriptSandbox
