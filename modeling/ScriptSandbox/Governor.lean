/-!
The time budget of an evaluation. The governor is armed when an evaluation starts and asked from time
to time whether the budget is spent; once it has said so, it says so until it is armed again. Clock
readings are in nanoseconds, the budget is in milliseconds. The start of a period is kept as 64 bits of
nanoseconds since the governor was made.
-/

namespace ScriptSandbox

structure Governor where
  /-- The budget; zero and negative numbers mean that there is none. -/
  timeoutMs : Int
  /-- The clock reading at which the governor was made. -/
  madeAt : Nat
  /-- Nanoseconds from then to the start of the current period. -/
  startedAfter : Nat
  /-- Whether a poll of this period found the budget spent. -/
  timedOut : Bool

namespace Governor

def nanosPerMilli : Nat := 1000000

def longestOffset : Nat := 0xFFFFFFFFFFFFFFFF

def create (timeoutMs : Int) (now : Nat) : Governor :=
  { timeoutMs, madeAt := now, startedAfter := 0, timedOut := false }

def enabled (governor : Governor) : Bool := 0 < governor.timeoutMs

def arm (governor : Governor) (now : Nat) : Governor :=
  { governor with startedAfter := min (now - governor.madeAt) longestOffset, timedOut := false }

def elapsed (governor : Governor) (now : Nat) : Nat :=
  now - governor.madeAt - governor.startedAfter

/-- Asks whether the evaluation has to stop: whether more time than the budget has passed. -/
def poll (governor : Governor) (now : Nat) : Bool × Governor :=
  if governor.timedOut then (true, governor)
  else if !governor.enabled then (false, governor)
  else if governor.timeoutMs.natAbs * nanosPerMilli < governor.elapsed now then
    (true, { governor with timedOut := true })
  else (false, governor)

end Governor

end ScriptSandbox
