import ScriptSandbox.Proofs.Silence

/-!
The stages of an evaluation. Code of the script may run while the source text is evaluated, while its
value is converted, and while what it threw is looked at. These are all the conversations between the
arming of the governor and the end of the evaluation, so the latch at the end tells of exactly these.
-/

namespace ScriptSandbox

open Script Script.Execution

namespace Session

/-! ### Sessions along the way -/

theorem run_host (session : Session) (clock : Clock) (part : Execution α) :
    (session.run clock part).2.host = (Host.converse clock (part session.machine) session.host).2 := rfl

theorem run_limits (session : Session) (clock : Clock) (part : Execution α) :
    (session.run clock part).2.limits = session.limits := rfl

def Interrupts (session : Session) (clock : Clock) (part : Execution α) : Prop :=
  (Host.interruption clock (part session.machine) session.host).isSome = true

theorem run_governed (session : Session) (clock : Clock) (part : Execution α) :
    (session.run clock part).2.host.governed = session.host.governed :=
  Host.converse_governed clock _ _

theorem run_bound (session : Session) (clock : Clock) (part : Execution α) :
    (session.run clock part).2.host.bound = session.host.bound :=
  Host.converse_bound clock _ _

theorem run_latched (session : Session) (clock : Clock) (part : Execution α)
    (governed : session.host.governed = true) :
    (session.run clock part).2.host.governor.timedOut = true ↔
      session.host.governor.timedOut = true ∨ session.Interrupts clock part := by
  rw [run_host, Host.converse_timedOut clock _ _ governed, Bool.or_eq_true, Interrupts]

theorem run_untouched (session : Session) (clock : Clock) (part : Execution α)
    (unbound : session.host.bound = false) (silent : Silent part) :
    session.host.Untouched (session.run clock part).2.host :=
  Host.converse_untouched clock _ _ unbound (silent session.machine)

def slowPolls : Clock :=
  { passing := fun _ polls => if polls.isSome then 1000000000 else 0, epochMs := 0 }

def brief (timeoutMs : Int) : Session :=
  { limits := { memoryBytes := 0, timeoutMs, consoleBytes := 100 }
    machine := default
    host := .create (.empty 100) timeoutMs }

section

variable [Runtime]

/-! ### The stages -/

inductive Stage (session : Session) (clock : Clock) (code : String) :
    {α : Type} → Execution α → Session → Prop
  | evaluation (clean : code.contains '\x00' = false) :
    Stage session clock code (Runtime.evaluate (Units.ofString code)) (session.begun clock)
  | conversion (clean : code.contains '\x00' = false) (value : Value) (after : Session)
    (ran : (session.begun clock).run clock (Runtime.evaluate (Units.ofString code)) = (.value value, after)) :
    Stage session clock code (Marshal.fromScript value) after.unbound
  | classification (reason : Value) (after : Session)
    (found : (session.begun clock).evaluated clock code = (.thrown reason, after))
    (early : after.host.governor.timedOut = false) :
    Stage session clock code (ScriptException.classify reason) after

theorem explain_host (session : Session) (clock : Clock) (thrown : Value) :
    (session.explain clock thrown).2 = (session.run clock (ScriptException.classify thrown)).2 := by
  unfold explain
  split
  · next same => rw [same]
  · next other => rw [other]

theorem converted_session (session : Session) (clock : Clock) (value : Value) :
    (session.converted clock value).2 = (session.run clock (Marshal.fromScript value)).2 := by
  unfold converted
  split <;> next same => rw [same]

/-- What an evaluation does: it refuses the source text, or converts the value that the text comes to,
or stays with the failure of the text. -/
theorem evaluated_cases (session : Session) (clock : Clock) (code : String) :
    (code.contains '\x00' = true ∧
      session.evaluated clock code = (.refused nulException, session.unbound)) ∨
    (code.contains '\x00' = false ∧ ∃ value after,
      session.run clock (Runtime.evaluate (Units.ofString code)) = (.value value, after) ∧
      session.evaluated clock code = after.unbound.converted clock value) ∨
    (code.contains '\x00' = false ∧
      (∀ value, (session.run clock (Runtime.evaluate (Units.ofString code))).1 ≠ .value value) ∧
      (session.evaluated clock code).2 =
        (session.run clock (Runtime.evaluate (Units.ofString code))).2.unbound) := by
  by_cases nul : code.contains '\x00' = true
  · exact .inl ⟨nul, by simp only [evaluated, nul, if_true]⟩
  · have clean : code.contains '\x00' = false := by simpa using nul
    simp only [evaluated, clean, Bool.false_eq_true, if_false, false_and, false_or, true_and]
    split
    · next value after ran => exact .inl ⟨value, after, ran, rfl⟩
    · next reason after ran => exact .inr (by simp [ran])
    · next reason after ran => exact .inr (by simp [ran])

/-- What every run keeps, and the end of an evaluation too, an evaluation keeps. -/
theorem evaluated_keeps (kept : Session → Prop) (clock : Clock)
    (runs : ∀ {α : Type} (session : Session) (part : Execution α), kept session → kept (session.run clock part).2)
    (ends : ∀ session, kept session → kept session.unbound) (session : Session) (code : String)
    (start : kept session) : kept (session.evaluated clock code).2 := by
  have ran := runs session (Runtime.evaluate (Units.ofString code)) start
  obtain ⟨-, same⟩ | ⟨-, value, after, done, same⟩ | ⟨-, -, same⟩ := session.evaluated_cases clock code
  · rw [same]
    exact ends session start
  · rw [done] at ran
    rw [same, converted_session]
    exact runs after.unbound _ (ends after ran)
  · rw [same]
    exact ends _ ran

theorem evaluated_limits (session : Session) (clock : Clock) (code : String) :
    (session.evaluated clock code).2.limits = session.limits :=
  evaluated_keeps (fun later => later.limits = session.limits) clock
    (fun later part kept => (later.run_limits clock part).trans kept) (fun _ kept => kept) session code rfl

theorem evaluated_governed (session : Session) (clock : Clock) (code : String) :
    (session.evaluated clock code).2.host.governed = session.host.governed :=
  evaluated_keeps (fun later => later.host.governed = session.host.governed) clock
    (fun later part kept => (later.run_governed clock part).trans kept) (fun _ kept => kept) session code rfl

theorem finished_of_latched (session : Session) (clock : Clock) (found : Evaluated)
    (latched : session.host.governor.timedOut = true) :
    session.finished clock found = (.timedOut session.limits.timeoutMs, session) := by
  simp only [finished, latched, if_true]

theorem finished_of_unlatched (session : Session) (clock : Clock) (found : Evaluated)
    (unlatched : session.host.governor.timedOut = false) :
    (∀ timeoutMs, (session.finished clock found).1 ≠ .timedOut timeoutMs) ∧
    ((∀ reason, found ≠ .thrown reason) → (session.finished clock found).2 = session) ∧
    (∀ reason, found = .thrown reason →
      (session.finished clock found).2 = (session.run clock (ScriptException.classify reason)).2) := by
  simp only [finished, unlatched, Bool.false_eq_true, if_false]
  cases found with
  | value value => simp
  | refused exception => simp
  | thrown reason =>
    refine ⟨fun timeoutMs => nofun, fun other => absurd rfl (other reason), ?_⟩
    rintro _ ⟨⟩
    exact session.explain_host clock reason

/-! ### What is left of an evaluation -/

theorem evaluated_bound (session : Session) (clock : Clock) (code : String) :
    (session.evaluated clock code).2.host.bound = false := by
  obtain ⟨-, same⟩ | ⟨-, value, after, ran, same⟩ | ⟨-, -, same⟩ := session.evaluated_cases clock code
  · rw [same]
    rfl
  · rw [same, converted_session, run_bound]
    rfl
  · rw [same]
    rfl

variable (surface : Surface.Silent)
include surface

theorem evaluated_untouched (session : Session) (clock : Clock) (code : String)
    (clean : code.contains '\x00' = false) :
    (session.run clock (Runtime.evaluate (Units.ofString code))).2.host.Untouched
      (session.evaluated clock code).2.host := by
  obtain ⟨nul, -⟩ | ⟨-, value, after, ran, same⟩ | ⟨-, -, same⟩ := session.evaluated_cases clock code
  · rw [clean] at nul
    cases nul
  · rw [same, converted_session, ran]
    exact after.unbound.run_untouched clock _ rfl (Marshal.silent_fromScript surface value)
  · rw [same]
    exact ⟨rfl, rfl⟩

theorem eval_untouched (session : Session) (clock : Clock) (code : String) :
    ((session.begun clock).evaluated clock code).2.host.Untouched (session.eval clock code).2.host := by
  have unbound := (session.begun clock).evaluated_bound clock code
  show ((session.begun clock).evaluated clock code).2.host.Untouched
    (((session.begun clock).evaluated clock code).2.finished clock
      ((session.begun clock).evaluated clock code).1).2.host
  generalize (session.begun clock).evaluated clock code = result at unbound ⊢
  obtain ⟨found, after⟩ := result
  cases latched : after.host.governor.timedOut with
  | true =>
    rw [finished_of_latched after clock found latched]
    exact ⟨rfl, rfl⟩
  | false =>
    obtain ⟨-, quiet, looked⟩ := finished_of_unlatched after clock found latched
    cases found with
    | thrown reason =>
      rw [looked reason rfl]
      exact after.run_untouched clock _ unbound (ScriptException.silent_classify surface reason)
    | value value =>
      rw [quiet nofun]
      exact ⟨rfl, rfl⟩
    | refused exception =>
      rw [quiet nofun]
      exact ⟨rfl, rfl⟩

end

end Session

end ScriptSandbox
