import ScriptSandbox.Console
import ScriptSandbox.Dialogue
import ScriptSandbox.Governor

/-!
The host's side of an evaluation: its console, its callback for requests, its time budget, and whether an
evaluation is in flight. `Host.reply` answers one question, and `Host.converse` a whole computation.
-/

namespace ScriptSandbox

/-- A clock, by the time that passes between its readings. -/
structure Clock where
  /-- Nanoseconds that pass until a reading, by the number of readings before it, and for a poll of the
  governor also by the number of polls in the evaluation so far. -/
  passing : (readings : Nat) → (polls : Option Nat) → Nat
  /-- Milliseconds from 1970 to the start. -/
  epochMs : Int

/-- A clock that goes by the work that is done: every poll takes a tenth of a millisecond longer than the
one before it, so that an evaluation without an end runs out of any budget soon. -/
def Clock.byWork (epochMs : Int) : Clock :=
  { epochMs, passing := fun _ polls => match polls with
      | some polls => (polls + 1) * 100000
      | none => 10000 }

structure Host where
  console : Console
  callback : Option HttpCallback
  /-- How often the callback has answered. -/
  answers : Nat
  /-- The requests that were written down, in order. -/
  requests : Array HttpRequest
  /-- Whether an evaluation is in flight. -/
  bound : Bool
  governor : Governor
  /-- Whether the governor may stop what runs. -/
  governed : Bool
  /-- Nanoseconds since the start, at the last reading of the clock. -/
  now : Nat
  /-- How often the clock has been read. -/
  readings : Nat
  /-- How often the governor was asked in this evaluation. -/
  polls : Nat

namespace Host

def create (console : Console) (timeoutMs : Int) : Host :=
  { console, callback := none, answers := 0, requests := #[], bound := false
    governor := .create timeoutMs 0, governed := false, now := 0, readings := 0, polls := 0 }

def look (host : Host) (clock : Clock) : Host :=
  { host with now := host.now + clock.passing host.readings none, readings := host.readings + 1 }

def poll (host : Host) (clock : Clock) : Bool × Host :=
  if host.governed then
    let now := host.now + clock.passing host.readings (some host.polls)
    let (stops, governor) := host.governor.poll now
    (stops, { host with governor, now, readings := host.readings + 1, polls := host.polls + 1 })
  else (false, host)

def reply (host : Host) (clock : Clock) : (question : Question) → question.Answer × Host
  | .interrupt => host.poll clock
  | .bound => (host.bound, host)
  | .callback => (host.callback.isSome, host)
  | .write bytes => ((), { host with console := host.console.append bytes })
  | .request request =>
    match host.callback with
    | some callback =>
      let requests := if callback.records then host.requests.push request else host.requests
      (callback.answer host.answers request, { host with answers := host.answers + 1, requests })
    | none => (.error [], host)
  | .time =>
    let host := host.look clock
    (clock.epochMs + host.now / Governor.nanosPerMilli, host)
  | .uptime =>
    let host := host.look clock
    (Float.ofNat host.now / 1000000, host)

def converse (clock : Clock) : Dialogue α → Host → α × Host
  | .done result, host => (result, host)
  | .ask question next, host =>
    let (answer, host) := host.reply clock question
    converse clock (next answer) host

/-- Installs or removes the callback; answers are counted from the start. -/
def setCallback (host : Host) (callback : Option HttpCallback) : Host :=
  { host with callback, answers := 0 }

end Host

end ScriptSandbox
