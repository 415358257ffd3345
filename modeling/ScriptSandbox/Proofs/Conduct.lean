import ScriptSandbox.Proofs.Silence

/-!
Scripts by what they do to their host. A conduct is everything that code of a script may do, whatever it
is written as: it works on the machine, lets the governor look, reads the clocks, prints and fetches, and
returns or throws. What it prints and fetches is written by more code of the script. What a primitive
throws it may catch; a stop it may not.
-/

namespace ScriptSandbox

open Script Script.Execution

/-- What code of a script does. -/
inductive Conduct : Type → Type 1 where
  | returns (result : α) : Conduct α
  | throws (reason : Value) : Conduct α
  /-- Changes the machine, and goes on by what it finds. -/
  | works (change : Machine → Machine) (next : Machine → Conduct α) : Conduct α
  /-- A point where the governor is asked. -/
  | polls (next : Conduct α) : Conduct α
  | time (next : Int → Conduct α) : Conduct α
  | uptime (next : Float → Conduct α) : Conduct α
  /-- A call of `print` with these arguments, each of which is written by code of its own. -/
  | prints (values : List Value) (coerce : Value → Conduct (Array UInt8)) (next : Conduct α) : Conduct α
  /-- A call of `fetch`, perhaps without an address. Writing the address, reading the options and making
  the response are code of the script as well. -/
  | fetches (given : Bool) (url : Conduct String) (options : Conduct (String × Option String))
    (build : HttpResponse → Conduct Value) (next : Except Value Value → Conduct α) : Conduct α

namespace Conduct

/-- What a script does after a call that may throw. A stop it does not see. -/
def caught (next : Except Value Value → Execution α) : Ending Value → Execution α
  | .value response => next (.ok response)
  | .thrown reason => next (.error reason)
  | .stopped reason => stop reason

def run : Conduct α → Execution α
  | .returns result => return result
  | .throws reason => throwValue reason
  | .works change next => do
    modify change
    (next (← get)).run
  | .polls next => do
    if ← ask .interrupt then stop .interrupted else next.run
  | .time next => do (next (← ask .time)).run
  | .uptime next => do (next (← ask .uptime)).run
  | .prints values coerce next => do
    Primitives.printWith (fun value => (coerce value).run) values
    next.run
  | .fetches given url options build next => do
    let ending ← attempt (Primitives.requestWith (if given then some url.run else none) options.run
      fun response => (build response).run)
    caught (fun result => (next result).run) ending

def printing (values : List Value) (coerce : Value → Conduct (Array UInt8)) : Execution Unit :=
  Primitives.printWith (fun value => (coerce value).run) values

def fetching (given : Bool) (url : Conduct String) (options : Conduct (String × Option String))
    (build : HttpResponse → Conduct Value) : Execution Value :=
  Primitives.requestWith (if given then some url.run else none) options.run
    fun response => (build response).run

theorem run_prints (values : List Value) (coerce : Value → Conduct (Array UInt8)) (next : Conduct α) :
    (prints values coerce next).run = (printing values coerce >>= fun _ => next.run) := rfl

theorem run_fetches (given : Bool) (url : Conduct String) (options : Conduct (String × Option String))
    (build : HttpResponse → Conduct Value) (next : Except Value Value → Conduct α) :
    (fetches given url options build next).run =
      (attempt (fetching given url options build) >>= caught fun result => (next result).run) := rfl

theorem silent_printing (values : List Value) (coerce : Value → Conduct (Array UInt8)) :
    Silent (printing values coerce) := fun _ => .unbound _ (.done _)

theorem silent_fetching (given : Bool) (url : Conduct String) (options : Conduct (String × Option String))
    (build : HttpResponse → Conduct Value) : Silent (fetching given url options build) :=
  fun machine => .unbound _ (silent_throwNew _ _ machine)

theorem silent_run (conduct : Conduct α) : Silent conduct.run := by
  induction conduct with
  | returns result => exact silent_pure result
  | throws reason => exact silent_throwValue reason
  | works change next ih => exact fun machine => ih (change machine) (change machine)
  | polls next ih =>
    refine silent_bind _ _ (silent_ask .interrupt rfl) fun stops => ?_
    cases stops with
    | true => exact silent_stop _
    | false => exact ih
  | time next ih => exact silent_bind _ _ (silent_ask .time rfl) fun now => ih now
  | uptime next ih => exact silent_bind _ _ (silent_ask .uptime rfl) fun now => ih now
  | prints values coerce next _ ih => exact silent_bind _ _ (silent_printing values coerce) fun _ => ih
  | fetches given url options build next _ _ _ ih =>
    refine silent_bind _ _ (silent_attempt _ (silent_fetching given url options build)) fun ending => ?_
    cases ending with
    | value response => exact ih _
    | thrown reason => exact ih _
    | stopped reason => exact silent_stop _

end Conduct

structure Behaviour where
  program : (source : Units) → Conduct Value
  toUnits : (value : Value) → Conduct Units
  get : (value : Value) → (key : Key) → Conduct Value
  isArray : (value : Value) → Conduct Bool
  lengthOf : (value : Value) → Conduct Nat
  define : (name : String) → (value : HostValue) → Conduct Unit

namespace Behaviour

@[reducible] def runtime (behaviour : Behaviour) : Runtime where
  toUnits value := (behaviour.toUnits value).run
  get value key := (behaviour.get value key).run
  isArray value := (behaviour.isArray value).run
  lengthOf value := (behaviour.lengthOf value).run
  evaluate source := (behaviour.program source).run
  define name value := (behaviour.define name value).run

theorem silent_surface (behaviour : Behaviour) : @Surface.Silent behaviour.runtime.toSurface :=
  letI := behaviour.runtime
  { toUnits := fun value => (behaviour.toUnits value).silent_run
    get := fun value key => (behaviour.get value key).silent_run
    isArray := fun value => (behaviour.isArray value).silent_run
    lengthOf := fun value => (behaviour.lengthOf value).silent_run }

end Behaviour

end ScriptSandbox
