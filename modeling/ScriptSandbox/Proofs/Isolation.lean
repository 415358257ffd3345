import ScriptSandbox.Proofs.Effects
import ScriptSandbox.Proofs.Timeout

/-!
What one evaluation has to do with another. A session is used again and again, and keeps what scripts
define; but the console, the latch of the governor, the calls of the callback and the binding of the
primitives belong to one evaluation each. `Resting` is what holds of a session between its uses.
-/

namespace ScriptSandbox

open Script Script.Execution

namespace Session

inductive Use where
  | eval (code : String)
  | setVariable (name : String) (value : HostValue)
  | setCallback (callback : Option HttpCallback)

def Use.installs (callback : Option HttpCallback) : Use → Option HttpCallback
  | .setCallback callback => callback
  | _ => callback

def installed (uses : List Use) : Option HttpCallback := uses.foldl Use.installs none

/-- What a session was given, and keeps whatever runs. -/
structure Endowed (granted : Limits) (callback : Option HttpCallback) (session : Session) : Prop where
  limits : session.limits = granted
  callback : session.host.callback = callback
  cap : session.host.console.limit = granted.consoleBytes
  budget : session.host.governor.timeoutMs = granted.timeoutMs

/-- A session as it is between its uses. -/
structure Resting (granted : Limits) (callback : Option HttpCallback) (session : Session) : Prop
    extends Endowed granted callback session where
  unbound : session.host.bound = false
  ungoverned : session.host.governed = false

theorem resting_create (granted : Limits) : Resting granted none (create granted) where
  limits := rfl
  callback := rfl
  cap := rfl
  budget := rfl
  unbound := rfl
  ungoverned := rfl

theorem endowed_run (granted : Limits) (callback : Option HttpCallback) (session : Session) (clock : Clock)
    (part : Execution α) (endowed : Endowed granted callback session) :
    Endowed granted callback (session.run clock part).2 where
  limits := endowed.limits
  callback := (Host.converse_callback clock _ _).trans endowed.callback
  cap := (Host.converse_limit clock _ _).trans endowed.cap
  budget := (Host.converse_timeoutMs clock _ _).trans endowed.budget

section

variable [Runtime]

def use (session : Session) (clock : Clock) : Use → Session
  | .eval code => (session.eval clock code).2
  | .setVariable name value => (session.setVariable clock name value).2
  | .setCallback callback => session.setCallback callback

def afterUses (limits : Limits) (clock : Clock) (uses : List Use) : Session :=
  uses.foldl (fun session next => session.use clock next) (create limits)

theorem setVariable_cases (session : Session) (clock : Clock) (name : String) (value : HostValue) :
    (session.setVariable clock name value).2 = session ∨
    (session.setVariable clock name value).2 = (session.run clock (Runtime.define name value)).2 ∨
    ∃ reason after, session.run clock (Runtime.define name value) = (.thrown reason, after) ∧
      (session.setVariable clock name value).2 = (after.run clock (ScriptException.classify reason)).2 := by
  unfold setVariable
  split
  · exact .inl rfl
  · split
    · next after ran => exact .inr (.inl (by rw [ran]))
    · next reason after ran => exact .inr (.inr ⟨reason, after, ran, explain_host after clock reason⟩)
    · next stop after ran => exact .inr (.inl (by rw [ran]))

theorem setVariable_keeps (kept : Session → Prop) (clock : Clock)
    (runs : ∀ {α : Type} (session : Session) (part : Execution α), kept session → kept (session.run clock part).2)
    (session : Session) (name : String) (value : HostValue) (start : kept session) :
    kept (session.setVariable clock name value).2 := by
  obtain same | same | ⟨reason, after, ran, same⟩ := session.setVariable_cases clock name value
  · rw [same]
    exact start
  · rw [same]
    exact runs session _ start
  · have before := runs session (Runtime.define name value) start
    rw [ran] at before
    rw [same]
    exact runs after _ before

theorem finished_keeps (kept : Session → Prop) (clock : Clock)
    (runs : ∀ {α : Type} (session : Session) (part : Execution α), kept session → kept (session.run clock part).2)
    (session : Session) (found : Evaluated) (start : kept session) :
    kept (session.finished clock found).2 := by
  cases latched : session.host.governor.timedOut with
  | true =>
    rw [finished_of_latched session clock found latched]
    exact start
  | false =>
    obtain ⟨-, quiet, looked⟩ := finished_of_unlatched session clock found latched
    cases found with
    | thrown reason =>
      rw [looked reason rfl]
      exact runs session _ start
    | value value =>
      rw [quiet nofun]
      exact start
    | refused exception =>
      rw [quiet nofun]
      exact start

theorem eval_released (session : Session) (clock : Clock) (code : String) :
    (session.eval clock code).2.host.bound = false ∧ (session.eval clock code).2.host.governed = false :=
  ⟨finished_keeps (fun later => later.host.bound = false) clock
    (fun later part unbound => (later.run_bound clock part).trans unbound) _ _
    ((session.begun clock).evaluated_bound clock code), rfl⟩

theorem endowed_eval (granted : Limits) (callback : Option HttpCallback) (session : Session) (clock : Clock)
    (code : String) (endowed : Endowed granted callback session) :
    Endowed granted callback (session.eval clock code).2 := by
  have begun : Endowed granted callback (session.begun clock) :=
    ⟨endowed.limits, endowed.callback, endowed.cap, endowed.budget⟩
  have evaluated := evaluated_keeps (Endowed granted callback) clock
    (fun later part => endowed_run granted callback later clock part)
    (fun later kept => ⟨kept.limits, kept.callback, kept.cap, kept.budget⟩) (session.begun clock) code begun
  have finished := finished_keeps (Endowed granted callback) clock
    (fun later part => endowed_run granted callback later clock part) _
    ((session.begun clock).evaluated clock code).1 evaluated
  exact ⟨finished.limits, finished.callback, finished.cap, finished.budget⟩

theorem resting_setVariable (granted : Limits) (callback : Option HttpCallback) (session : Session)
    (clock : Clock) (name : String) (value : HostValue) (resting : Resting granted callback session) :
    Resting granted callback (session.setVariable clock name value).2 :=
  setVariable_keeps (Resting granted callback) clock
    (fun later part kept =>
      { endowed_run granted callback later clock part kept.toEndowed with
        unbound := (later.run_bound clock part).trans kept.unbound
        ungoverned := (later.run_governed clock part).trans kept.ungoverned })
    session name value resting

/-- The step of the invariant. -/
theorem resting_use (granted : Limits) (callback : Option HttpCallback) (session : Session) (clock : Clock)
    (next : Use) (resting : Resting granted callback session) :
    Resting granted (next.installs callback) (session.use clock next) := by
  cases next with
  | eval code =>
    obtain ⟨unbound, ungoverned⟩ := session.eval_released clock code
    exact ⟨endowed_eval granted callback session clock code resting.toEndowed, unbound, ungoverned⟩
  | setVariable name value => exact resting_setVariable granted callback session clock name value resting
  | setCallback callback => exact ⟨⟨resting.limits, rfl, resting.cap, resting.budget⟩, resting.unbound, resting.ungoverned⟩

theorem resting_uses (granted : Limits) (callback : Option HttpCallback) (session : Session) (clock : Clock)
    (uses : List Use) (resting : Resting granted callback session) :
    Resting granted (uses.foldl Use.installs callback)
      (uses.foldl (fun session next => session.use clock next) session) := by
  induction uses generalizing session callback with
  | nil => exact resting
  | cons next rest ih => exact ih _ _ (resting_use granted callback session clock next resting)

/-- Whatever was done with a session, it rests. -/
theorem resting_afterUses (granted : Limits) (clock : Clock) (uses : List Use) :
    Resting granted (installed uses) (afterUses granted clock uses) :=
  resting_uses granted none (create granted) clock uses (resting_create granted)

/-! ### Code of the script outside of its evaluation -/

/-- A computation that may run code of the script although no source text is evaluated, and the session
that it starts from. -/
inductive Aside (session : Session) (clock : Clock) : Use → {α : Type} → Execution α → Session → Prop
  | conversion (code : String) (clean : code.contains '\x00' = false) (value : Value) (after : Session)
    (ran : (session.begun clock).run clock (Runtime.evaluate (Units.ofString code)) = (.value value, after)) :
    Aside session clock (.eval code) (Marshal.fromScript value) after.unbound
  | classification (code : String) (reason : Value) (after : Session)
    (found : (session.begun clock).evaluated clock code = (.thrown reason, after))
    (early : after.host.governor.timedOut = false) :
    Aside session clock (.eval code) (ScriptException.classify reason) after
  | definition (name : String) (value : HostValue) :
    Aside session clock (.setVariable name value) (Runtime.define name value) session
  | explanation (name : String) (value : HostValue) (reason : Value) (after : Session)
    (ran : session.run clock (Runtime.define name value) = (.thrown reason, after)) :
    Aside session clock (.setVariable name value) (ScriptException.classify reason) after

theorem aside_unbound (session start : Session) (clock : Clock) (next : Use) (part : Execution α)
    (rests : session.host.bound = false) (aside : session.Aside clock next part start) :
    start.host.bound = false := by
  cases aside with
  | conversion code clean value after ran => rfl
  | classification code reason after found early =>
    have unbound := (session.begun clock).evaluated_bound clock code
    rwa [found] at unbound
  | definition name value => exact rests
  | explanation name value reason after ran =>
    have same := session.run_bound clock (Runtime.define name value)
    rw [ran] at same
    exact same.trans rests

theorem silent_of_aside (surface : Surface.Silent) (defines : ∀ name value, Silent (Runtime.define name value))
    (session start : Session) (clock : Clock) (next : Use) (part : Execution α)
    (aside : session.Aside clock next part start) : Silent part := by
  cases aside with
  | conversion code clean value after ran => exact Marshal.silent_fromScript surface value
  | classification code reason after found early => exact ScriptException.silent_classify surface reason
  | definition name value => exact defines name value
  | explanation name value reason after ran => exact ScriptException.silent_classify surface reason

theorem setVariable_untouched (surface : Surface.Silent)
    (defines : ∀ name value, Silent (Runtime.define name value)) (session : Session) (clock : Clock)
    (name : String) (value : HostValue) (rests : session.host.bound = false) :
    session.host.Untouched (session.setVariable clock name value).2.host := by
  have defined := session.run_untouched clock (Runtime.define name value) rests (defines name value)
  obtain same | same | ⟨reason, after, ran, same⟩ := session.setVariable_cases clock name value
  · rw [same]
    exact ⟨rfl, rfl⟩
  · rw [same]
    exact defined
  · have unbound := aside_unbound session after clock _ _ rests (.explanation name value reason after ran)
    rw [ran] at defined
    rw [same]
    exact defined.trans _ _ _
      (after.run_untouched clock _ unbound (ScriptException.silent_classify surface reason))

/-! ### The evaluation itself -/

def evaluationEffects (session : Session) (clock : Clock) (code : String) : List Host.Effect :=
  if code.contains '\x00' then []
  else Host.effects clock (Runtime.evaluate (Units.ofString code) (session.begun clock).machine)
    (session.begun clock).host

theorem eval_answers (surface : Surface.Silent) (session : Session) (clock : Clock) (code : String) :
    (session.eval clock code).2.host.answers =
      session.host.answers + Host.calls (session.evaluationEffects clock code) := by
  have ending := (session.eval_untouched surface clock code).2
  rw [ending, evaluationEffects]
  cases nul : code.contains '\x00' with
  | true =>
    simp only [evaluated, nul, if_true]
    rfl
  | false =>
    have converted := ((session.begun clock).evaluated_untouched surface clock code nul).2
    rw [converted, run_host, Host.converse_answers, if_neg Bool.false_ne_true]
    rfl

theorem finished_completed (session : Session) (clock : Clock) (found : Evaluated) (result : EvalResult)
    (completed : (session.finished clock found).1 = .completed result) :
    (∃ value, found = .value value) ∧ result.consoleOutput = session.host.console.text ∧
      result.consoleTruncated = session.host.console.truncated := by
  unfold finished at completed
  split at completed
  · cases completed
  · cases found with
    | value value =>
      cases completed
      exact ⟨⟨value, rfl⟩, rfl, rfl⟩
    | thrown reason => cases completed
    | refused exception => cases completed

theorem console_of_completed (surface : Surface.Silent) (session after : Session) (clock : Clock)
    (code : String) (result : EvalResult) (completed : session.eval clock code = (.completed result, after)) :
    code.contains '\x00' = false ∧
      result.consoleOutput =
        ((session.begun clock).run clock (Runtime.evaluate (Units.ofString code))).2.host.console.text ∧
      result.consoleTruncated =
        ((session.begun clock).run clock (Runtime.evaluate (Units.ofString code))).2.host.console.truncated := by
  have outcome := (session.eval_outcome clock code).symm.trans (congrArg Prod.fst completed)
  obtain ⟨⟨value, found⟩, output, truncated⟩ := finished_completed _ clock _ result outcome
  cases nul : code.contains '\x00' with
  | true =>
    rw [evaluated, nul, if_pos rfl] at found
    cases found
  | false =>
    have converted := ((session.begun clock).evaluated_untouched surface clock code nul).1
    rw [converted] at output truncated
    exact ⟨rfl, output, truncated⟩

end

/-- What an evaluation has to itself. -/
structure Isolated [Runtime] (program : Units → Conduct Value) (granted : Limits) (clock : Clock)
    (uses : List Use) (session : Session) : Prop where
  /-- What a completed evaluation shows is what its own calls of `print` wrote, up to the cap. -/
  output : ∀ code result after, session.eval clock code = (.completed result, after) →
    let bytes := (program (Units.ofString code)).printed clock (session.begun clock).machine
      (session.begun clock).host
    result.consoleOutput = Lossy.decode (bytes.take granted.consoleBytes).toArray ∧
      result.consoleTruncated = decide (granted.consoleBytes < bytes.length)
  /-- Elsewhere nothing is written or requested; `print` does nothing there, and `fetch` throws. -/
  aside : ∀ next {α : Type} (part : Execution α) start, session.Aside clock next part start →
    Host.effects clock (part start.machine) start.host = [] ∧
    ∀ met, Host.Meets clock (part start.machine) start.host met →
      (∀ values coerce machine,
        Host.converse clock (Conduct.printing values coerce machine) met = (.value () machine, met)) ∧
      (∀ given url options build machine, ∃ reason thrown,
        throwNew .error "fetch() called outside sandbox context" machine =
          Dialogue.done (.thrown reason thrown : Outcome Value) ∧
        Host.converse clock (Conduct.fetching given url options build machine) met =
          (.thrown reason thrown, met))
  /-- Only the callback that was installed last is called. -/
  callback : ∀ code callback answers request,
    .called callback answers request ∈ session.evaluationEffects clock code →
    installed uses = some callback
  /-- Every call of the callback belongs to the evaluation of a source text. -/
  answers : (∀ code, (session.eval clock code).2.host.answers =
      session.host.answers + Host.calls (session.evaluationEffects clock code)) ∧
    ∀ name value, (session.setVariable clock name value).2.host.answers = session.host.answers
  /-- An evaluation is the same whether or not the latch is set when it begins, and ends out of time only
  because it was asked to stop itself. -/
  latch : ∀ code, (∀ latched, eval { session with host.governor.timedOut := latched } clock code =
      session.eval clock code) ∧
    ∀ timeoutMs, (session.eval clock code).1 = .timedOut timeoutMs → session.InterruptsEarly clock code
  /-- However an evaluation ends, the primitives see none then, and the governor is not asked. -/
  released : ∀ code, (session.eval clock code).2.host.bound = false ∧
    (session.eval clock code).2.host.governed = false

/-- Whatever was done with a session before, and whatever its scripts do, its evaluations are isolated. -/
theorem isolated_afterUses (behaviour : Behaviour) (granted : Limits) (clock : Clock) (uses : List Use) :
    @Isolated behaviour.runtime behaviour.program granted clock uses
      (@afterUses behaviour.runtime granted clock uses) := by
  let := behaviour.runtime
  have surface := behaviour.silent_surface
  have defines (name : String) (value : HostValue) : Silent (Runtime.define name value) :=
    (behaviour.define name value).silent_run
  have resting := resting_afterUses granted clock uses
  generalize afterUses granted clock uses = session at resting
  constructor
  case output =>
    intro code result after completed
    obtain ⟨-, output, truncated⟩ := console_of_completed surface session after clock code result completed
    have holds := Host.converse_holds clock (Runtime.evaluate (Units.ofString code) (session.begun clock).machine)
      (session.begun clock).host [] (Console.holds_reset session.host.console)
    have cap := Host.converse_limit clock
      (Runtime.evaluate (Units.ofString code) (session.begun clock).machine) (session.begun clock).host
    have limit : (Host.converse clock (Runtime.evaluate (Units.ofString code) (session.begun clock).machine)
        (session.begun clock).host).2.console.limit = granted.consoleBytes := cap.trans resting.cap
    have printed : Host.output clock (Runtime.evaluate (Units.ofString code) (session.begun clock).machine)
        (session.begun clock).host = (behaviour.program (Units.ofString code)).printed clock
          (session.begun clock).machine (session.begun clock).host := Conduct.output_run clock _ _ _
    have bytes := holds.bytes
    have flag := holds.truncated
    rw [limit, List.nil_append, printed] at bytes flag
    exact ⟨output.trans (congrArg Lossy.decode (Array.toList_inj.1 bytes)), truncated.trans flag⟩
  case aside =>
    intro next α part start aside
    have unbound := aside_unbound session start clock next part resting.unbound aside
    have silent := silent_of_aside surface defines session start clock next part aside
    refine ⟨Host.effects_of_silent clock _ start.host unbound (silent start.machine), fun met meets => ?_⟩
    have alone := (Host.meets_bound clock _ start.host met meets).trans unbound
    exact ⟨fun values coerce machine => Conduct.converse_printing_of_unbound clock values coerce machine met alone,
      fun given url options build machine =>
        Conduct.converse_fetching_of_unbound clock given url options build machine met alone⟩
  case callback =>
    intro code callback answers request called
    rw [← resting.callback]
    unfold evaluationEffects at called
    split at called
    · cases called
    · exact Host.callback_of_called clock _ (session.begun clock).host callback answers request called
  case answers =>
    refine ⟨eval_answers surface session clock, fun name value => ?_⟩
    exact (setVariable_untouched surface defines session clock name value resting.unbound).2
  case latch =>
    intro code
    refine ⟨fun latched => rfl, fun timeoutMs ended => ?_⟩
    exact Classical.byContradiction fun notEarly =>
      (session.eval_of_not_early clock code notEarly).1 timeoutMs ended
  case released => exact session.eval_released clock

end Session

end ScriptSandbox
