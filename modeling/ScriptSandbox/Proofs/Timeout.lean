import ScriptSandbox.Proofs.Stages

/-!
Time counts before anything else, up to a point. The latch of the governor is looked at after the value
of a script is converted and before what it threw is: an answer that asks to stop in the first two
stages makes the evaluation end out of time, and one in the last stage is forgotten.
-/

namespace ScriptSandbox

open Script Script.Execution

namespace Session

section

variable [Runtime]

/-- The governor asks to stop before its latch is looked at. -/
inductive InterruptsEarly (session : Session) (clock : Clock) (code : String) : Prop
  | evaluation (clean : code.contains '\x00' = false)
    (interrupts : (session.begun clock).Interrupts clock (Runtime.evaluate (Units.ofString code)))
  | conversion (clean : code.contains '\x00' = false) (value : Value) (after : Session)
    (ran : (session.begun clock).run clock (Runtime.evaluate (Units.ofString code)) = (.value value, after))
    (interrupts : after.unbound.Interrupts clock (Marshal.fromScript value))

/-- The governor asks to stop for the first time while a thrown value is looked at. -/
def InterruptsLate (session : Session) (clock : Clock) (code : String) : Prop :=
  ∃ reason after, (session.begun clock).evaluated clock code = (.thrown reason, after) ∧
    after.host.governor.timedOut = false ∧ after.Interrupts clock (ScriptException.classify reason)

/-- The evaluation ends out of time exactly if its governor ever asked to stop. -/
def Timely (session : Session) (clock : Clock) (code : String) : Prop :=
  ((session.eval clock code).2.host.governor.timedOut = true →
    (session.eval clock code).1 = .timedOut session.limits.timeoutMs) ∧
  ((session.eval clock code).2.host.governor.timedOut = false →
    ∀ timeoutMs, (session.eval clock code).1 ≠ .timedOut timeoutMs)

theorem stage_interrupts_iff (session : Session) (clock : Clock) (code : String) :
    (∃ (α : Type) (part : Execution α) (stage : Session),
      session.Stage clock code part stage ∧ stage.Interrupts clock part) ↔
      session.InterruptsEarly clock code ∨ session.InterruptsLate clock code := by
  constructor
  · rintro ⟨α, part, stage, reached, interrupts⟩
    cases reached with
    | evaluation clean => exact .inl (.evaluation clean interrupts)
    | conversion clean value after ran => exact .inl (.conversion clean value after ran interrupts)
    | classification reason after found early => exact .inr ⟨reason, _, found, early, interrupts⟩
  · rintro (interrupts | ⟨reason, after, found, early, interrupts⟩)
    · cases interrupts with
      | evaluation clean interrupts => exact ⟨_, _, _, .evaluation clean, interrupts⟩
      | conversion clean value after ran interrupts =>
        exact ⟨_, _, _, .conversion clean value after ran, interrupts⟩
    · exact ⟨_, _, _, .classification reason after found early, interrupts⟩

theorem evaluated_latched (session : Session) (clock : Clock) (code : String) :
    ((session.begun clock).evaluated clock code).2.host.governor.timedOut = true ↔
      session.InterruptsEarly clock code := by
  have latched := (session.begun clock).run_latched clock (Runtime.evaluate (Units.ofString code)) rfl
  have fresh : (session.begun clock).host.governor.timedOut = false := rfl
  rw [fresh] at latched
  obtain ⟨nul, same⟩ | ⟨clean, value, after, ran, same⟩ | ⟨clean, failed, same⟩ :=
    (session.begun clock).evaluated_cases clock code
  · rw [same]
    refine iff_of_false (by exact Bool.false_ne_true) fun interrupts => ?_
    cases interrupts with
    | evaluation clean _ => simp [nul] at clean
    | conversion clean _ _ _ _ => simp [nul] at clean
  · have governed : after.unbound.host.governed = true := by
      have still := (session.begun clock).run_governed clock (Runtime.evaluate (Units.ofString code))
      rw [ran] at still
      exact still
    rw [ran] at latched
    rw [same, converted_session, run_latched _ _ _ governed]
    constructor
    · rintro (before | interrupts)
      · exact .evaluation clean ((latched.1 before).resolve_left Bool.false_ne_true)
      · exact .conversion clean value after ran interrupts
    · intro interrupts
      cases interrupts with
      | evaluation _ interrupts => exact .inl (latched.2 (.inr interrupts))
      | conversion _ value' after' ran' interrupts =>
        rw [ran] at ran'
        obtain ⟨⟨⟩, rfl⟩ := Prod.mk.inj ran'
        exact .inr interrupts
  · rw [same]
    refine latched.trans ⟨fun interrupts => ?_, fun interrupts => ?_⟩
    · exact .evaluation clean (interrupts.resolve_left Bool.false_ne_true)
    · cases interrupts with
      | evaluation _ interrupts => exact .inr interrupts
      | conversion _ value after ran _ =>
        exact absurd (congrArg Prod.fst ran) (failed value)

theorem eval_outcome (session : Session) (clock : Clock) (code : String) :
    (session.eval clock code).1 =
      (((session.begun clock).evaluated clock code).2.finished clock
        ((session.begun clock).evaluated clock code).1).1 := rfl

theorem eval_governor (session : Session) (clock : Clock) (code : String) :
    (session.eval clock code).2.host.governor =
      (((session.begun clock).evaluated clock code).2.finished clock
        ((session.begun clock).evaluated clock code).1).2.host.governor := rfl

theorem eval_of_early (session : Session) (clock : Clock) (code : String)
    (early : session.InterruptsEarly clock code) :
    (session.eval clock code).1 = .timedOut session.limits.timeoutMs ∧
      (session.eval clock code).2.host.governor.timedOut = true := by
  have latched := (session.evaluated_latched clock code).2 early
  rw [eval_outcome, eval_governor, finished_of_latched _ clock _ latched]
  refine ⟨?_, latched⟩
  have limits := (session.begun clock).evaluated_limits clock code
  exact congrArg (fun limits => EvalOutcome.timedOut limits.timeoutMs) limits

theorem eval_of_not_early (session : Session) (clock : Clock) (code : String)
    (notEarly : ¬ session.InterruptsEarly clock code) :
    (∀ timeoutMs, (session.eval clock code).1 ≠ .timedOut timeoutMs) ∧
      ((session.eval clock code).2.host.governor.timedOut = true ↔
        session.InterruptsLate clock code) := by
  have unlatched : ((session.begun clock).evaluated clock code).2.host.governor.timedOut = false := by
    rw [← Bool.not_eq_true, evaluated_latched]
    exact notEarly
  have governed : ((session.begun clock).evaluated clock code).2.host.governed = true :=
    (session.begun clock).evaluated_governed clock code
  obtain ⟨other, quiet, looked⟩ := finished_of_unlatched _ clock
    ((session.begun clock).evaluated clock code).1 unlatched
  refine ⟨other, ?_⟩
  rw [eval_governor]
  by_cases threw : ∃ reason, ((session.begun clock).evaluated clock code).1 = .thrown reason
  · obtain ⟨reason, threw⟩ := threw
    have found : (session.begun clock).evaluated clock code =
        (.thrown reason, ((session.begun clock).evaluated clock code).2) := Prod.ext threw rfl
    rw [looked reason threw, run_latched _ _ _ governed, unlatched]
    constructor
    · intro latched
      exact ⟨reason, _, found, unlatched, latched.resolve_left Bool.false_ne_true⟩
    · rintro ⟨reason', after', found', -, interrupts⟩
      rw [found] at found'
      obtain ⟨⟨⟩, rfl⟩ := Prod.mk.inj found'
      exact .inr interrupts
  · rw [quiet fun reason same => threw ⟨reason, same⟩, unlatched]
    refine iff_of_false Bool.false_ne_true ?_
    rintro ⟨reason, after, found, -, -⟩
    exact threw ⟨reason, congrArg Prod.fst found⟩

/-- The latch at the end tells whether the governor ever asked to stop, in any stage. It decides the
outcome, unless the governor asks for the first time while a thrown value is looked at. -/
theorem timely_iff (session : Session) (clock : Clock) (code : String) :
    ((session.eval clock code).2.host.governor.timedOut = true ↔
      ∃ (α : Type) (part : Execution α) (stage : Session),
        session.Stage clock code part stage ∧ stage.Interrupts clock part) ∧
    (session.Timely clock code ↔ ¬ session.InterruptsLate clock code) := by
  rw [stage_interrupts_iff]
  by_cases early : session.InterruptsEarly clock code
  · obtain ⟨outcome, latched⟩ := session.eval_of_early clock code early
    have notLate : ¬ session.InterruptsLate clock code := by
      rintro ⟨reason, after, found, unlatched, -⟩
      have before := (session.evaluated_latched clock code).2 early
      rw [found, unlatched] at before
      exact Bool.false_ne_true before
    refine ⟨iff_of_true latched (.inl early), iff_of_true ⟨fun _ => outcome, fun unlatched => ?_⟩ notLate⟩
    rw [latched] at unlatched
    exact absurd unlatched.symm Bool.false_ne_true
  · obtain ⟨other, latched⟩ := session.eval_of_not_early clock code early
    refine ⟨latched.trans ⟨.inr, fun interrupts => interrupts.resolve_left early⟩, ?_⟩
    constructor
    · intro timely late
      exact other _ (timely.1 (latched.2 late))
    · intro notLate
      exact ⟨fun set => absurd (latched.1 set) notLate, fun _ => other⟩

end

/-! ### A late stop -/

@[reducible] def slowText : Runtime where
  toUnits _ := do if ← ask .interrupt then stop .interrupted else return #[]
  get _ _ := return .undefined
  isArray _ := return false
  lengthOf _ := return 0
  evaluate _ := throwValue .null
  define _ _ := return ()

theorem slowText_not_timely : ¬ @Timely slowText (brief 60) slowPolls "" := by
  have clean : "".contains '\x00' = false := by simp
  have evaluation : ∃ exception after,
      @eval slowText (brief 60) slowPolls "" = (.excepted exception, after) ∧
        after.host.governor.timedOut = true := by
    simp only [eval, evaluated, clean, Bool.false_eq_true, if_false]
    exact ⟨_, _, rfl, rfl⟩
  obtain ⟨exception, after, same, latched⟩ := evaluation
  intro timely
  have outcome := timely.1 (by rw [same]; exact latched)
  rw [same] at outcome
  cases outcome

end Session

end ScriptSandbox
