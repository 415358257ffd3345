import ScriptSandbox.Config
import ScriptSandbox.Host
import ScriptSandbox.Outcome

/-!
A session: a script engine with its own memory, and the host's side of it. What scripts define stays
from one evaluation to the next; the console and the time budget start anew. Converting the result and
looking at what was thrown run code of the script too, after the evaluation is over but within its
budget.
-/

namespace ScriptSandbox

open Script Script.Execution

namespace Sandbox

/-- The functions of the library may call each other so deeply. -/
def depth : Nat := 1500

/-- The realm with the primitives, before the prelude. -/
def realm : Realm := (Primitives.install.run Realm.furnished).2

@[reducible] def catalog : Catalog := ⟨realm.methods⟩

@[reducible] def engine : Engine := Script.engine realm.methods depth

def evaluate (source : Units) : Execution Value := @evaluateProgram engine catalog source true true

/-- Defines a global variable by an assignment to the global object. Nothing is defined if the conversion
fails. -/
def define (name : String) (value : HostValue) : Execution Unit := do
  let converted ← @Marshal.toScript engine value
  @Ref.put engine Intrinsic.global.ref (.ofString name) converted

instance runtime : Runtime where
  toSurface := @Surface.ofEngine engine
  evaluate := evaluate
  define := define

def stillClock : Clock := { passing := fun _ _ => 0, epochMs := 0 }

/-- The machine at the start of a session: the prelude has run. -/
def start : Machine :=
  let machine := realm.machine
  let host := Host.create (.empty 0) 0
  match (Host.converse stillClock (evaluate (Units.ofString Primitives.fetchPrelude) machine) host).1 with
  | .value _ machine => { machine with charged := 0 }
  | .thrown _ machine => machine
  | .stopped _ machine => machine

def baseline : Nat := Memory.reached start []

end Sandbox

structure Session where
  limits : Limits
  machine : Machine
  host : Host

namespace Session

def create (limits : Limits) : Session :=
  { limits
    machine := { Sandbox.start with limit := some limits.memoryBytes, baseline := Sandbox.baseline }
    host := .create (.empty limits.consoleBytes) limits.timeoutMs }

def setCallback (session : Session) (callback : Option HttpCallback) : Session :=
  { session with host := session.host.setCallback callback }

def hasCallback (session : Session) : Bool := session.host.callback.isSome

def settled : Outcome α → Ending α × Machine
  | .value result machine => (.value result, machine)
  | .thrown reason machine => (.thrown reason, { machine with depth := 0, waiting := [] })
  | .stopped stop machine => (.stopped stop, { machine with depth := 0, waiting := [] })

def run (session : Session) (clock : Clock) (part : Script.Script α) : Ending α × Session :=
  let (outcome, host) := Host.converse clock (part session.machine) session.host
  let (ending, machine) := settled outcome
  (ending, { session with machine, host })

variable [Runtime]

/-- What is reported when a thrown value cannot be looked at. -/
def unexplained : ScriptException :=
  { kind := .script, message := ScriptException.unprintable, stack := none }

def explain (session : Session) (clock : Clock) (thrown : Value) : ScriptException × Session :=
  match session.run clock (ScriptException.classify thrown) with
  | (.value exception, session) => (exception, session)
  | (_, session) => (unexplained, session)

/-! ### Variables -/

def setVariable (session : Session) (clock : Clock) (name : String) (value : HostValue) :
    Except Failure Unit × Session :=
  if name.isEmpty then (.error .invalidVariableName, session)
  else
    match session.run clock (Runtime.define name value) with
    | (.value (), session) => (.ok (), session)
    | (.thrown reason, session) =>
      let (exception, session) := session.explain clock reason
      (.error (.marshal exception.message), session)
    | (.stopped _, session) => (.error (.marshal unexplained.message), session)

/-! ### Evaluation -/

def nulException : ScriptException :=
  { kind := .syntaxError, message := "SyntaxError: source text contains a NUL byte", stack := none }

/-- A session at the start of an evaluation: an empty console, the whole budget, and primitives that
see it. -/
def begun (session : Session) (clock : Clock) : Session :=
  let host := session.host.look clock
  { session with
    host := { host with
      console := host.console.reset, governor := host.governor.arm host.now, governed := true, bound := true
      polls := 0 } }

inductive Evaluated where
  | value (value : HostValue)
  | thrown (reason : Value)
  | refused (exception : ScriptException)

def unbound (session : Session) : Session :=
  { session with host := { session.host with bound := false } }

def converted (session : Session) (clock : Clock) (value : Value) : Evaluated × Session :=
  match session.run clock (Marshal.fromScript value) with
  | (.value value, session) => (.value value, session)
  | (.thrown reason, session) => (.thrown reason, session)
  | (.stopped _, session) => (.refused unexplained, session)

def evaluated (session : Session) (clock : Clock) (code : String) : Evaluated × Session :=
  if code.contains '\x00' then (.refused nulException, session.unbound)
  else
    match session.run clock (Runtime.evaluate (Units.ofString code)) with
    | (.value value, session) => session.unbound.converted clock value
    | (.thrown reason, session) => (.thrown reason, session.unbound)
    | (.stopped _, session) => (.refused unexplained, session.unbound)

/-- How an evaluation ends: out of time, whatever else happened, or else by what the script came to. -/
def finished (session : Session) (clock : Clock) (found : Evaluated) : EvalOutcome × Session :=
  if session.host.governor.timedOut then (.timedOut session.limits.timeoutMs, session)
  else match found with
    | .value value =>
      (.completed { value, consoleOutput := session.host.console.text
                    consoleTruncated := session.host.console.truncated }, session)
    | .thrown reason =>
      let (exception, session) := session.explain clock reason
      (.excepted exception, session)
    | .refused exception => (.excepted exception, session)

def eval (session : Session) (clock : Clock) (code : String) : EvalOutcome × Session :=
  let (found, session) := (session.begun clock).evaluated clock code
  let (outcome, session) := session.finished clock found
  (outcome, { session with host := { session.host with governed := false } })

end Session

end ScriptSandbox
