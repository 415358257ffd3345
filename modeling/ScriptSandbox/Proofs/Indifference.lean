import ScriptSandbox.Proofs.ConsoleText

/-!
The cap of the console is nothing that a script can find out. Two sessions that were given different caps, and were
used in the same way, stay `Alike`: a host answers every question without a look at its console, so a computation
asks the same questions on both, gets the same answers and comes to the same end. What differs is how much of the
same bytes is captured.
-/

namespace ScriptSandbox

open Script Script.Execution

/-! ### Hosts -/

namespace Host

structure Exchange where
  question : Question
  answer : question.Answer

def exchanges (clock : Clock) : Dialogue α → Host → List Exchange
  | .done _, _ => []
  | .ask question next, host =>
    ⟨question, (host.reply clock question).1⟩ ::
      exchanges clock (next (host.reply clock question).1) (host.reply clock question).2

/-- Hosts that differ in nothing but their consoles, to which the same bytes were written. -/
structure Alike (first second : Host) : Prop where
  others : { first with console := second.console } = second
  written : ∃ bytes, first.console.Holds bytes ∧ second.console.Holds bytes

section

variable (clock : Clock) (first second : Host)

theorem converse_ask (question : Question) (next : question.Answer → Dialogue α) (host : Host) :
    Host.converse clock (.ask question next) host =
      Host.converse clock (next (host.reply clock question).1) (host.reply clock question).2 := rfl

/-- The step of the simulation: alike hosts give the same answer, and are alike afterwards. -/
theorem Alike.reply (question : Question) (alike : first.Alike second) :
    (first.reply clock question).1 = (second.reply clock question).1 ∧
      (first.reply clock question).2.Alike (second.reply clock question).2 := by
  obtain ⟨others, bytes, held, held'⟩ := alike
  rw [← others]
  cases question with
  | interrupt =>
    unfold Host.reply Host.poll
    dsimp only
    split
    · exact ⟨rfl, rfl, bytes, held, held'⟩
    · exact ⟨rfl, rfl, bytes, held, held'⟩
  | write data =>
    exact ⟨rfl, rfl, bytes ++ data.toList, Console.holds_append _ bytes data held,
      Console.holds_append _ bytes data held'⟩
  | request request =>
    unfold Host.reply
    dsimp only
    split
    · exact ⟨rfl, rfl, bytes, held, held'⟩
    · exact ⟨rfl, rfl, bytes, held, held'⟩
  | _ => exact ⟨rfl, rfl, bytes, held, held'⟩

theorem Alike.converse (dialogue : Dialogue α) (alike : first.Alike second) :
    (Host.converse clock dialogue first).1 = (Host.converse clock dialogue second).1 ∧
      (Host.converse clock dialogue first).2.Alike (Host.converse clock dialogue second).2 ∧
      exchanges clock dialogue first = exchanges clock dialogue second := by
  induction dialogue generalizing first second with
  | done result => exact ⟨rfl, alike, rfl⟩
  | ask question next ih =>
    obtain ⟨answer, after⟩ := alike.reply clock first second question
    obtain ⟨result, still, exchanged⟩ := ih (first.reply clock question).1 _ _ after
    rw [converse_ask, converse_ask, exchanges, exchanges, ← answer]
    exact ⟨result, still, congrArg _ exchanged⟩

end

end Host

def EvalOutcome.withoutConsole : EvalOutcome → EvalOutcome
  | .completed result => .completed { result with consoleOutput := "", consoleTruncated := false }
  | outcome => outcome

/-! ### Sessions -/

namespace Session

/-- Sessions that differ in nothing but the caps and the contents of their consoles. -/
structure Alike (first second : Session) : Prop where
  limits : { first.limits with consoleBytes := second.limits.consoleBytes } = second.limits
  machine : first.machine = second.machine
  host : first.host.Alike second.host

def partExchanges (session : Session) (clock : Clock) (part : Execution α) : List Host.Exchange :=
  Host.exchanges clock (part session.machine) session.host

section

variable (clock : Clock) (first second : Session)

theorem run_eq (session : Session) (part : Execution α) :
    session.run clock part =
      ((settled (Host.converse clock (part session.machine) session.host).1).1,
        { session with
          machine := (settled (Host.converse clock (part session.machine) session.host).1).2
          host := (Host.converse clock (part session.machine) session.host).2 }) := rfl

theorem Alike.run (part : Execution α) (alike : first.Alike second) :
    (first.run clock part).1 = (second.run clock part).1 ∧
      (first.run clock part).2.Alike (second.run clock part).2 ∧
      first.partExchanges clock part = second.partExchanges clock part := by
  obtain ⟨result, host, exchanged⟩ := alike.host.converse clock _ _ (part first.machine)
  rw [partExchanges, partExchanges, run_eq, run_eq, ← alike.machine, ← result]
  exact ⟨rfl, ⟨alike.limits, rfl, host⟩, exchanged⟩

theorem Alike.unbound (alike : first.Alike second) : first.unbound.Alike second.unbound := by
  obtain ⟨limits, machine, others, bytes, held, held'⟩ := alike
  exact ⟨limits, machine, congrArg (fun host => { host with bound := false }) others, bytes, held, held'⟩

theorem Alike.begun (alike : first.Alike second) : (first.begun clock).Alike (second.begun clock) := by
  obtain ⟨limits, machine, others, -⟩ := alike
  refine ⟨limits, machine, ?_, [], Console.holds_reset _, Console.holds_reset _⟩
  rw [Session.begun, Session.begun, ← others]
  rfl

theorem Alike.ungoverned (alike : first.Alike second) :
    ({ first with host := { first.host with governed := false } } : Session).Alike
      { second with host := { second.host with governed := false } } := by
  obtain ⟨limits, machine, others, written⟩ := alike
  exact ⟨limits, machine, congrArg (fun host => { host with governed := false }) others, written⟩

variable [Runtime]

theorem Alike.converted (value : Value) (alike : first.Alike second) :
    (first.converted clock value).1 = (second.converted clock value).1 ∧
      (first.converted clock value).2.Alike (second.converted clock value).2 := by
  obtain ⟨same, after, -⟩ := alike.run clock _ _ (Marshal.fromScript value)
  unfold Session.converted
  rcases ran : first.run clock (Marshal.fromScript value) with ⟨ending, left⟩
  rcases ran' : second.run clock (Marshal.fromScript value) with ⟨ending', left'⟩
  rw [ran, ran'] at same after
  obtain rfl : ending = ending' := same
  cases ending <;> exact ⟨rfl, after⟩

theorem Alike.evaluated (code : String) (alike : first.Alike second) :
    (first.evaluated clock code).1 = (second.evaluated clock code).1 ∧
      (first.evaluated clock code).2.Alike (second.evaluated clock code).2 := by
  obtain ⟨same, after, -⟩ := alike.run clock _ _ (Runtime.evaluate (Units.ofString code))
  unfold Session.evaluated
  split
  · exact ⟨rfl, alike.unbound⟩
  · rcases ran : first.run clock (Runtime.evaluate (Units.ofString code)) with ⟨ending, left⟩
    rcases ran' : second.run clock (Runtime.evaluate (Units.ofString code)) with ⟨ending', left'⟩
    rw [ran, ran'] at same after
    obtain rfl : ending = ending' := same
    cases ending with
    | value value => exact after.unbound.converted clock _ _ value
    | thrown reason => exact ⟨rfl, after.unbound⟩
    | stopped reason => exact ⟨rfl, after.unbound⟩

theorem Alike.explain (thrown : Value) (alike : first.Alike second) :
    (first.explain clock thrown).1 = (second.explain clock thrown).1 ∧
      (first.explain clock thrown).2.Alike (second.explain clock thrown).2 := by
  obtain ⟨same, after, -⟩ := alike.run clock _ _ (ScriptException.classify thrown)
  unfold Session.explain
  rcases ran : first.run clock (ScriptException.classify thrown) with ⟨ending, left⟩
  rcases ran' : second.run clock (ScriptException.classify thrown) with ⟨ending', left'⟩
  rw [ran, ran'] at same after
  obtain rfl : ending = ending' := same
  cases ending <;> exact ⟨rfl, after⟩

theorem Alike.finished (found : Evaluated) (alike : first.Alike second) :
    (first.finished clock found).1.withoutConsole = (second.finished clock found).1.withoutConsole ∧
      (first.finished clock found).2.Alike (second.finished clock found).2 := by
  have latch : first.host.governor.timedOut = second.host.governor.timedOut := by rw [← alike.host.others]
  have timeout : first.limits.timeoutMs = second.limits.timeoutMs := by rw [← alike.limits]
  unfold Session.finished
  rw [← latch, ← timeout]
  split
  · exact ⟨rfl, alike⟩
  · cases found with
    | value value => exact ⟨rfl, alike⟩
    | refused exception => exact ⟨rfl, alike⟩
    | thrown reason =>
      obtain ⟨same, after⟩ := alike.explain clock _ _ reason
      exact ⟨congrArg (fun exception => (EvalOutcome.excepted exception).withoutConsole) same, after⟩

/-- Alike sessions evaluate a source text to the same outcome, but for what it shows of the console. -/
theorem Alike.eval (code : String) (alike : first.Alike second) :
    (first.eval clock code).1.withoutConsole = (second.eval clock code).1.withoutConsole ∧
      (first.eval clock code).2.Alike (second.eval clock code).2 := by
  obtain ⟨same, after⟩ := (alike.begun clock).evaluated clock _ _ code
  unfold Session.eval
  rcases ran : (first.begun clock).evaluated clock code with ⟨found, left⟩
  rcases ran' : (second.begun clock).evaluated clock code with ⟨found', left'⟩
  rw [ran, ran'] at same after
  obtain rfl : found = found' := same
  obtain ⟨outcome, ended⟩ := after.finished clock _ _ found
  exact ⟨outcome, ended.ungoverned⟩

theorem Alike.setVariable (name : String) (value : HostValue) (alike : first.Alike second) :
    (first.setVariable clock name value).2.Alike (second.setVariable clock name value).2 := by
  obtain ⟨same, after, -⟩ := alike.run clock _ _ (Runtime.define name value)
  unfold Session.setVariable
  split
  · exact alike
  · rcases ran : first.run clock (Runtime.define name value) with ⟨ending, left⟩
    rcases ran' : second.run clock (Runtime.define name value) with ⟨ending', left'⟩
    rw [ran, ran'] at same after
    obtain rfl : ending = ending' := same
    cases ending with
    | value defined => exact after
    | thrown reason => exact (after.explain clock _ _ reason).2
    | stopped reason => exact after

theorem Alike.use (next : Use) (alike : first.Alike second) :
    (first.use clock next).Alike (second.use clock next) := by
  cases next with
  | eval code => exact (alike.eval clock _ _ code).2
  | setVariable name value => exact alike.setVariable clock _ _ name value
  | setCallback callback =>
    obtain ⟨limits, machine, others, written⟩ := alike
    exact ⟨limits, machine, congrArg (fun host => host.setCallback callback) others, written⟩

end

section

variable [Runtime]

def conversionExchanges (session : Session) (clock : Clock) : Ending Value → List Host.Exchange
  | .value value => session.unbound.partExchanges clock (Marshal.fromScript value)
  | _ => []

def classificationExchanges (session : Session) (clock : Clock) : Evaluated → List Host.Exchange
  | .thrown reason =>
    if session.host.governor.timedOut then []
    else session.partExchanges clock (ScriptException.classify reason)
  | _ => []

/-- The questions of all code that runs in an evaluation, with their answers: of the source text, of the conversion
of its value, and of the look at what was thrown. -/
def exchanges (session : Session) (clock : Clock) (code : String) : List Host.Exchange :=
  if code.contains '\x00' then []
  else
    let ran := (session.begun clock).run clock (Runtime.evaluate (Units.ofString code))
    let evaluated := (session.begun clock).evaluated clock code
    (session.begun clock).partExchanges clock (Runtime.evaluate (Units.ofString code)) ++
      ran.2.conversionExchanges clock ran.1 ++ evaluated.2.classificationExchanges clock evaluated.1

section

variable (clock : Clock) (first second : Session)

theorem Alike.conversionExchanges (ending : Ending Value) (alike : first.Alike second) :
    first.conversionExchanges clock ending = second.conversionExchanges clock ending := by
  cases ending with
  | value value => exact (alike.unbound.run clock _ _ (Marshal.fromScript value)).2.2
  | _ => rfl

theorem Alike.classificationExchanges (found : Evaluated) (alike : first.Alike second) :
    first.classificationExchanges clock found = second.classificationExchanges clock found := by
  cases found with
  | thrown reason =>
    have latch : first.host.governor.timedOut = second.host.governor.timedOut := by rw [← alike.host.others]
    rw [Session.classificationExchanges, Session.classificationExchanges, ← latch,
      (alike.run clock _ _ (ScriptException.classify reason)).2.2]
  | _ => rfl

theorem Alike.exchanges (code : String) (alike : first.Alike second) :
    first.exchanges clock code = second.exchanges clock code := by
  obtain ⟨ending, after, exchanged⟩ := (alike.begun clock).run clock _ _ (Runtime.evaluate (Units.ofString code))
  obtain ⟨found, ended⟩ := (alike.begun clock).evaluated clock _ _ code
  unfold Session.exchanges
  dsimp only
  rw [exchanged, ending, found, after.conversionExchanges, ended.classificationExchanges]

end

theorem shown_of_completed (session : Session) (clock : Clock) (code : String) (result : EvalResult)
    (completed : (session.eval clock code).1 = .completed result) :
    result.consoleOutput = Lossy.decode (session.eval clock code).2.host.console.bytes ∧
      result.consoleTruncated = (session.eval clock code).2.host.console.truncated := by
  have outcome := (session.eval_outcome clock code).symm.trans completed
  obtain ⟨-, shown, flag⟩ := finished_completed _ clock _ result outcome
  have left : (session.eval clock code).2.host.console = ((session.begun clock).evaluated clock code).2.host.console :=
    congrArg (fun ended => ended.host.console) (finished_session _ clock _ result outcome)
  rw [left]
  exact ⟨shown, flag⟩

theorem alike_afterUses (granted : Limits) (lower higher : Nat) (clock : Clock) (uses : List Use) :
    (afterUses { granted with consoleBytes := lower } clock uses).Alike
      (afterUses { granted with consoleBytes := higher } clock uses) := by
  have run (first second : Session) (alike : first.Alike second) :
      (uses.foldl (fun session next => session.use clock next) first).Alike
        (uses.foldl (fun session next => session.use clock next) second) := by
    induction uses generalizing first second with
    | nil => exact alike
    | cons next rest ih => exact ih _ _ (alike.use clock first second next)
  exact run _ _ ⟨rfl, rfl, rfl, [], Console.holds_empty lower, Console.holds_empty higher⟩

/-- Two sessions that were used alike, the second with no smaller cap than the first, evaluate a source text alike:
its code asks the same questions, so it prints and requests the same, and gets the same answers; the machines, the
requests and the callbacks are the same in the end; and so is the outcome, except for what it shows of the console.
The smaller console has captured the start of what the larger one has, and is cut off if the larger one is. -/
theorem eval_indifferent (granted : Limits) (lower higher : Nat) (order : lower ≤ higher) (clock : Clock)
    (uses : List Use) (code : String) :
    let first := afterUses { granted with consoleBytes := lower } clock uses
    let second := afterUses { granted with consoleBytes := higher } clock uses
    first.exchanges clock code = second.exchanges clock code ∧
    (first.eval clock code).1.withoutConsole = (second.eval clock code).1.withoutConsole ∧
    (first.eval clock code).2.machine = (second.eval clock code).2.machine ∧
    (first.eval clock code).2.host.requests = (second.eval clock code).2.host.requests ∧
    (first.eval clock code).2.host.answers = (second.eval clock code).2.host.answers ∧
    ∀ small large, (first.eval clock code).1 = .completed small → (second.eval clock code).1 = .completed large →
      small.consoleOutput = Lossy.decode (first.eval clock code).2.host.console.bytes ∧
      large.consoleOutput = Lossy.decode (second.eval clock code).2.host.console.bytes ∧
      (first.eval clock code).2.host.console.bytes.toList =
        (second.eval clock code).2.host.console.bytes.toList.take lower ∧
      (large.consoleTruncated = true → small.consoleTruncated = true) := by
  intro first second
  have alike : first.Alike second := alike_afterUses granted lower higher clock uses
  obtain ⟨outcome, after⟩ := alike.eval clock _ _ code
  obtain ⟨-, machine, others, bytes, held, held'⟩ := after
  have requests := congrArg Host.requests others
  have answers := congrArg Host.answers others
  refine ⟨alike.exchanges clock _ _ code, outcome, machine, requests, answers, fun small large ends ends' => ?_⟩
  obtain ⟨shown, flag⟩ := first.shown_of_completed clock code small ends
  obtain ⟨shown', flag'⟩ := second.shown_of_completed clock code large ends'
  have cap := (endowed_eval _ _ first clock code (resting_afterUses _ clock uses).toEndowed).cap
  have cap' := (endowed_eval _ _ second clock code (resting_afterUses _ clock uses).toEndowed).cap
  change (first.eval clock code).2.host.console.limit = lower at cap
  change (second.eval clock code).2.host.console.limit = higher at cap'
  refine ⟨shown, shown', ?_, fun cut => ?_⟩
  · rw [held.bytes, held'.bytes, cap, cap', List.take_take, Nat.min_eq_left order]
  · rw [flag', held'.truncated, cap', decide_eq_true_eq] at cut
    rw [flag, held.truncated, cap, decide_eq_true_eq]
    exact Nat.lt_of_le_of_lt order cut

end

/-- The smaller console cuts a character in two that the larger one has whole, with no room for the line end. -/
theorem echoed_indifferent :
    2 ≤ 4 ∧
    (echoed 2 "a€").1 = .completed { value := .null, consoleOutput := "a\uFFFD", consoleTruncated := true } ∧
    (echoed 4 "a€").1 = .completed { value := .null, consoleOutput := "a€", consoleTruncated := true } ∧
    (echoed 2 "a€").1.withoutConsole = (echoed 4 "a€").1.withoutConsole ∧
    (echoed 2 "a€").2.host.console.bytes.toList = (echoed 4 "a€").2.host.console.bytes.toList.take 2 := by
  have clean : "a€".contains '\x00' = false := by simp
  have small : (echoed 2 "a€").1 =
      .completed { value := .null, consoleOutput := "a\uFFFD", consoleTruncated := true } := by
    simp only [echoed, Session.eval, Session.evaluated, clean, Bool.false_eq_true, if_false]
    rfl
  have large : (echoed 4 "a€").1 =
      .completed { value := .null, consoleOutput := "a€", consoleTruncated := true } := by
    simp only [echoed, Session.eval, Session.evaluated, clean, Bool.false_eq_true, if_false]
    rfl
  obtain ⟨-, outcome, -, -, -, captured⟩ := @eval_indifferent echoing.runtime
    { memoryBytes := 0, timeoutMs := 0, consoleBytes := 0 } 2 4 (by decide) Sandbox.stillClock [] "a€"
  exact ⟨by decide, small, large, outcome, (captured _ _ small large).2.2.1⟩

end Session

end ScriptSandbox
