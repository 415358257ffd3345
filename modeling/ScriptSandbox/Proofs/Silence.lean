import ScriptSandbox.Proofs.Conversation
import ScriptSandbox.Session

/-!
Computations that leave no mark while no evaluation is in flight. They may run code of the script, and
that code may print and fetch; but printing does nothing then, and fetching is refused. Converting a value
and looking at a thrown one are of this kind if the engine is.
-/

namespace ScriptSandbox

/-- Whether a question leaves a mark on the host that is seen later on. -/
def Question.marks : Question → Bool
  | .write _ => true
  | .request _ => true
  | _ => false

/-- A computation that asks for no mark as long as it is told that no evaluation is in flight. -/
inductive Dialogue.Silent : Dialogue α → Prop
  | done (result : α) : Silent (.done result)
  | unbound (next : Bool → Dialogue α) (later : Silent (next false)) : Silent (.ask .bound next)
  | asks (question : Question) (next : question.Answer → Dialogue α) (harmless : question.marks = false)
    (later : ∀ answer, Silent (next answer)) : Silent (.ask question next)

theorem Dialogue.Silent.bind (first : Dialogue α) (next : α → Dialogue β) (silent : first.Silent)
    (later : ∀ result, (next result).Silent) : (first.bind next).Silent := by
  induction silent with
  | done result => exact later result
  | unbound rest _ ih => exact .unbound _ ih
  | asks question rest harmless _ ih => exact .asks question _ harmless ih

namespace Host

def Untouched (before after : Host) : Prop :=
  after.console = before.console ∧ after.answers = before.answers

theorem Untouched.trans (first second third : Host) (before : first.Untouched second)
    (after : second.Untouched third) : first.Untouched third :=
  ⟨after.1.trans before.1, after.2.trans before.2⟩

theorem Untouched.of_common (first second third : Host) (before : first.Untouched second)
    (after : first.Untouched third) : second.Untouched third :=
  ⟨after.1.trans before.1.symm, after.2.trans before.2.symm⟩

theorem reply_untouched (host : Host) (clock : Clock) (question : Question)
    (harmless : question.marks = false) : host.Untouched (host.reply clock question).2 := by
  cases question with
  | interrupt => unfold reply poll; split <;> exact ⟨rfl, rfl⟩
  | write bytes => cases harmless
  | request request => cases harmless
  | _ => exact ⟨rfl, rfl⟩

theorem converse_untouched (clock : Clock) (dialogue : Dialogue α) (host : Host)
    (unbound : host.bound = false) (silent : dialogue.Silent) :
    host.Untouched (converse clock dialogue host).2 := by
  induction silent generalizing host with
  | done result => exact ⟨rfl, rfl⟩
  | unbound next _ ih =>
    -- The host's answer is the one that the rule speaks of.
    have refused := ih host unbound
    rwa [← unbound] at refused
  | asks question next harmless _ ih =>
    have still := (host.reply_bound clock question).trans unbound
    exact Untouched.trans _ _ _ (host.reply_untouched clock question harmless) (ih _ _ still)

theorem interruption_untouched (clock : Clock) (dialogue rest : Dialogue α) (host after : Host)
    (unbound : host.bound = false) (silent : dialogue.Silent)
    (found : interruption clock dialogue host = some (rest, after)) : host.Untouched after := by
  induction silent generalizing host with
  | done result => simp [interruption] at found
  | unbound next _ ih =>
    refine ih host unbound ?_
    rw [← unbound]
    exact found
  | asks question next harmless _ ih =>
    have still := (host.reply_bound clock question).trans unbound
    have now := host.reply_untouched clock question harmless
    obtain ⟨-, -, rfl⟩ | found := interruption_ask_cases clock question next rest host after found
    · exact now
    · exact now.trans _ _ _ (ih _ _ still found)

end Host

namespace Script.Execution

/-- A computation of a script that is silent on every machine. -/
def Silent (part : Execution α) : Prop := ∀ machine, (part machine).Silent

theorem silent_pure (result : α) : Silent (pure result : Execution α) := fun _ => .done _

theorem silent_bind (first : Execution α) (next : α → Execution β) (silent : Silent first)
    (later : ∀ result, Silent (next result)) : Silent (first >>= next) := by
  intro machine
  rw [bind_eq]
  refine .bind _ _ (silent machine) fun outcome => ?_
  cases outcome with
  | value result machine => exact later result machine
  | thrown reason machine => exact .done _
  | stopped stop machine => exact .done _

theorem silent_throwValue (reason : Value) : Silent (throwValue reason : Execution α) := fun _ => .done _

theorem silent_stop (reason : Stop) : Silent (stop reason : Execution α) := fun _ => .done _

theorem silent_ask (question : Question) (harmless : question.marks = false) : Silent (ask question) :=
  fun _ => .asks question _ harmless fun _ => .done _

theorem silent_attempt (part : Execution α) (silent : Silent part) : Silent (attempt part) := by
  intro machine
  refine .bind _ _ (silent machine) fun outcome => ?_
  cases outcome <;> exact .done _

theorem silent_quietly (part : Execution α) (silent : Silent part) : Silent (quietly part) := by
  refine silent_bind _ _ (silent_attempt part silent) fun ending => ?_
  cases ending with
  | value result => exact silent_pure _
  | thrown reason => exact silent_pure _
  | stopped reason =>
    cases reason with
    | interrupted => exact silent_pure _
    | exhausted => exact silent_stop _

theorem iterate_succ (step : σ → Execution (σ ⊕ α)) (count : Nat) (state : σ) :
    iterate step (count + 1) state =
      (step state >>= fun (next : σ ⊕ α) =>
        match next with
        | .inl state => iterate step count state
        | .inr result => pure result) := by
  funext machine
  rw [bind_eq, iterate]
  cases step state machine with
  | done outcome =>
    cases outcome with
    | value next machine => cases next <;> rfl
    | thrown reason machine => rfl
    | stopped stop machine => rfl
  | ask question rest =>
    simp only [Dialogue.ask_bind]
    congr
    funext answer
    congr
    funext outcome
    cases outcome with
    | value next machine => cases next <;> rfl
    | thrown reason machine => rfl
    | stopped stop machine => rfl

theorem silent_iterate (step : σ → Execution (σ ⊕ α)) (count : Nat) (state : σ)
    (silent : ∀ state, Silent (step state)) : Silent (iterate step count state) := by
  induction count generalizing state with
  | zero => exact fun _ => .done _
  | succ count ih =>
    rw [iterate_succ]
    refine silent_bind _ _ (silent state) fun next => ?_
    cases next with
    | inl state => exact ih state
    | inr result => exact silent_pure result

theorem silent_makeError (cls : ErrorClass) (message : Units) : Silent (makeError cls message) :=
  silent_bind _ _ (fun _ => .done _) fun _ => silent_pure _

theorem silent_throwNew (cls : ErrorClass) (message : String) :
    Silent (throwNew cls message : Execution α) :=
  silent_bind _ _ (silent_makeError cls _) fun _ => silent_throwValue _

end Script.Execution

open Script Script.Execution

/-! ### Walks through arrays -/

namespace Walk

def Silent (walk : Walk α) : Prop := ∀ stack, Script.Execution.Silent (walk stack)

theorem silent_pure (result : α) : Silent (pure result : Walk α) :=
  fun stack => Script.Execution.silent_pure (Ending.value result, stack)

theorem silent_bind (first : Walk α) (next : α → Walk β) (silent : Silent first)
    (later : ∀ result, Silent (next result)) : Silent (first >>= next) := by
  intro stack
  refine Script.Execution.silent_bind _ _ (silent stack) fun (ending, stack) => ?_
  cases ending with
  | value result => exact later result stack
  | thrown reason => exact Script.Execution.silent_pure _
  | stopped reason => exact Script.Execution.silent_pure _

theorem silent_of (part : Execution α) (silent : Script.Execution.Silent part) : Silent (of part) := fun _ =>
  Script.Execution.silent_bind _ _ (Script.Execution.silent_attempt part silent) fun _ => Script.Execution.silent_pure _

theorem silent_ancestors : Silent ancestors := fun _ => Script.Execution.silent_pure _

theorem silent_inside (array : Ref) (part : Walk α) (silent : Silent part) : Silent (inside array part) :=
  fun stack => Script.Execution.silent_bind _ _ (silent (array :: stack)) fun _ => Script.Execution.silent_pure _

theorem silent_iterate (step : σ → Walk (σ ⊕ α)) (count : Nat) (start : σ)
    (silent : ∀ state, Silent (step state)) : Silent (iterate step count start) := by
  intro stack
  refine Script.Execution.silent_iterate (turn step) count (start, stack) fun (state, stack) => ?_
  refine Script.Execution.silent_bind _ _ (silent state stack) fun (ending, stack) => ?_
  cases ending with
  | value next => cases next <;> exact Script.Execution.silent_pure _
  | thrown reason => exact Script.Execution.silent_pure _
  | stopped reason => exact Script.Execution.silent_pure _

end Walk

/-! ### What the host does by itself -/

structure Surface.Silent [Surface] : Prop where
  toUnits : ∀ value, Script.Execution.Silent (Surface.toUnits value)
  get : ∀ value key, Script.Execution.Silent (Surface.get value key)
  isArray : ∀ value, Script.Execution.Silent (Surface.isArray value)
  lengthOf : ∀ value, Script.Execution.Silent (Surface.lengthOf value)

section

variable [Surface] (surface : Surface.Silent)
include surface

theorem silent_coercedText (value : Value) : Script.Execution.Silent (coercedText value) :=
  silent_bind _ _ (surface.toUnits value) fun _ => silent_pure _

namespace Marshal

theorem silent_scriptTextFrom (depth : Nat) (value : Value) :
    Script.Execution.Silent (scriptTextFrom depth value) := by
  induction depth generalizing value with
  | zero => exact silent_throwNew _ _
  | succ depth ih =>
    cases value with
    | symbol id =>
      refine silent_bind _ _ (surface.get _ _) fun description => ?_
      cases description with
      | undefined => exact silent_pure _
      | _ => exact silent_bind _ _ (ih _) fun _ => silent_pure _
    | _ => exact silent_coercedText surface _

theorem silent_collect (convert : Value → Walk HostValue) (array : Value) (length : Nat)
    (silent : ∀ item, (convert item).Silent) : (collect convert array length).Silent := by
  refine Walk.silent_iterate _ _ _ fun (index, done) => ?_
  dsimp only [gather]
  split
  · exact Walk.silent_pure _
  · refine Walk.silent_bind _ _ (Walk.silent_of _ (surface.get _ _)) fun item => ?_
    exact Walk.silent_bind _ _ (silent item) fun _ => Walk.silent_pure _

theorem silent_shown (value : Value) : (shown value).Silent :=
  Walk.silent_bind _ _ (Walk.silent_of _ (silent_scriptTextFrom surface _ value)) fun _ => Walk.silent_pure _

theorem silent_listed (convert : Value → Walk HostValue) (array : Value)
    (silent : ∀ item, (convert item).Silent) : (listed convert array).Silent := by
  have measured : Silent (entryLength array) :=
    silent_bind _ _ (surface.lengthOf array) fun _ => surface.lengthOf array
  refine Walk.silent_bind _ _ (Walk.silent_of _ measured) fun length => ?_
  exact Walk.silent_bind _ _ (silent_collect surface convert array length silent) fun _ => Walk.silent_pure _

theorem silent_fromWithin (depth : Nat) (value : Value) : (fromWithin depth value).Silent := by
  induction depth generalizing value with
  | zero => exact Walk.silent_of _ (silent_stop _)
  | succ depth ih =>
    unfold fromWithin
    split
    · exact Walk.silent_pure _
    · refine Walk.silent_bind _ _ (Walk.silent_of _ (surface.isArray _)) fun isArray => ?_
      cases isArray with
      | false => exact silent_shown surface _
      | true =>
        refine Walk.silent_bind _ _ Walk.silent_ancestors fun ancestors => ?_
        split
        · exact Walk.silent_pure _
        split
        · exact Walk.silent_inside _ _ (silent_listed surface _ _ ih)
        · exact silent_shown surface _
    · exact silent_shown surface _

theorem silent_fromScript (value : Value) : Script.Execution.Silent (fromScript value) := by
  refine silent_bind _ _ (silent_fromWithin surface _ value []) fun (ending, stack) => ?_
  cases ending with
  | value result => exact silent_pure _
  | thrown reason => exact silent_throwValue _
  | stopped reason => exact silent_stop _

end Marshal

namespace ScriptException

theorem silent_textProperty (ref : Ref) (key : Key) : Script.Execution.Silent (textProperty ref key) := by
  refine silent_bind _ _ (silent_quietly _ ?_) fun _ => silent_pure _
  refine silent_bind _ _ (surface.get _ _) fun value => ?_
  split
  · exact silent_pure _
  · exact silent_bind _ _ (silent_coercedText surface value) fun _ => silent_pure _

theorem silent_classify (thrown : Value) : Script.Execution.Silent (classify thrown) := by
  refine silent_bind _ _ (silent_quietly _ (Marshal.silent_scriptTextFrom surface _ thrown)) fun message => ?_
  cases thrown with
  | object ref =>
    refine silent_bind _ _ (silent_textProperty surface ref _) fun name => ?_
    split
    · exact silent_pure _
    · exact silent_bind _ _ (silent_textProperty surface ref _) fun _ => silent_pure _
  | _ => exact silent_pure _

end ScriptException

end

end ScriptSandbox
