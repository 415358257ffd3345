import ScriptSandbox.Proofs.Capture
import ScriptSandbox.Proofs.Conduct

/-!
What a conversation leaves outside of the machine: bytes that are written and calls of the callback, in
order. The console holds nothing but what was written, the callback that is called is the one the host has,
and only calls of `print` write. All of this is true at every point of a conversation, and not only at its
end: `Meets` tells which hosts a computation goes through.
-/

namespace ScriptSandbox

open Script Script.Execution

namespace Host

/-- Something that is done by the host because a computation asked for it. -/
inductive Effect where
  | wrote (bytes : Array UInt8)
  /-- A call of the callback, which had answered so often before. -/
  | called (callback : HttpCallback) (answers : Nat) (request : HttpRequest)

def effect (host : Host) : Question → List Effect
  | .write bytes => [.wrote bytes]
  | .request request =>
    match host.callback with
    | some callback => [.called callback host.answers request]
    | none => []
  | _ => []

/-- What a whole computation makes the host do, in order. -/
def effects (clock : Clock) : Dialogue α → Host → List Effect
  | .done _, _ => []
  | .ask question next, host =>
    host.effect question ++ effects clock (next (host.reply clock question).1) (host.reply clock question).2

def Effect.bytes : Effect → List UInt8
  | .wrote bytes => bytes.toList
  | .called _ _ _ => []

def Effect.isCall : Effect → Bool
  | .wrote _ => false
  | .called _ _ _ => true

def written (effects : List Effect) : List UInt8 := effects.flatMap Effect.bytes

def calls (effects : List Effect) : Nat := effects.countP Effect.isCall

theorem written_append (first second : List Effect) :
    written (first ++ second) = written first ++ written second := List.flatMap_append

theorem calls_append (first second : List Effect) :
    calls (first ++ second) = calls first + calls second := List.countP_append

theorem effects_bind (clock : Clock) (first : Dialogue α) (next : α → Dialogue β) (host : Host) :
    effects clock (first.bind next) host = effects clock first host ++
      effects clock (next (converse clock first host).1) (converse clock first host).2 := by
  induction first generalizing host with
  | done result => rfl
  | ask question rest ih =>
    change host.effect question ++ effects clock ((rest _).bind next) _ = _
    rw [ih, ← List.append_assoc]
    rfl

theorem effect_of_harmless (host : Host) (question : Question) (harmless : question.marks = false) :
    host.effect question = [] := by
  cases question with
  | write bytes => cases harmless
  | request request => cases harmless
  | _ => rfl

theorem effects_of_silent (clock : Clock) (dialogue : Dialogue α) (host : Host)
    (unbound : host.bound = false) (silent : dialogue.Silent) : effects clock dialogue host = [] := by
  induction silent generalizing host with
  | done result => rfl
  | unbound next _ ih =>
    have refused := ih host unbound
    rwa [← unbound] at refused
  | asks question next harmless _ ih =>
    have still := (host.reply_bound clock question).trans unbound
    change host.effect question ++ _ = []
    rw [host.effect_of_harmless question harmless, ih _ _ still]
    rfl

/-! ### What a conversation does not change -/

theorem reply_callback (host : Host) (clock : Clock) (question : Question) :
    (host.reply clock question).2.callback = host.callback := by
  cases question with
  | interrupt => unfold reply poll; split <;> rfl
  | request request => unfold reply; split <;> rfl
  | _ => rfl

theorem poll_timeoutMs (governor : Governor) (now : Nat) :
    (governor.poll now).2.timeoutMs = governor.timeoutMs := by
  unfold Governor.poll
  split
  · rfl
  split
  · rfl
  split <;> rfl

theorem reply_timeoutMs (host : Host) (clock : Clock) (question : Question) :
    (host.reply clock question).2.governor.timeoutMs = host.governor.timeoutMs := by
  cases question with
  | interrupt =>
    unfold reply poll
    split
    · exact poll_timeoutMs _ _
    · rfl
  | request request => unfold reply; split <;> rfl
  | _ => rfl

theorem converse_callback (clock : Clock) (dialogue : Dialogue α) (host : Host) :
    (converse clock dialogue host).2.callback = host.callback := by
  induction dialogue generalizing host with
  | done result => rfl
  | ask question next ih => exact (ih _ _).trans (host.reply_callback clock question)

theorem converse_timeoutMs (clock : Clock) (dialogue : Dialogue α) (host : Host) :
    (converse clock dialogue host).2.governor.timeoutMs = host.governor.timeoutMs := by
  induction dialogue generalizing host with
  | done result => rfl
  | ask question next ih => exact (ih _ _).trans (host.reply_timeoutMs clock question)

/-! ### What the effects account for -/

theorem callback_of_called (clock : Clock) (dialogue : Dialogue α) (host : Host) (callback : HttpCallback)
    (answers : Nat) (request : HttpRequest)
    (called : .called callback answers request ∈ effects clock dialogue host) :
    host.callback = some callback := by
  induction dialogue generalizing host with
  | done result => cases called
  | ask question next ih =>
    obtain now | later := List.mem_append.1 called
    · cases question with
      | request asked =>
        cases present : host.callback with
        | none =>
          rw [effect, present] at now
          cases now
        | some other =>
          rw [effect, present, List.mem_singleton] at now
          cases now
          rfl
      | write bytes => cases List.mem_singleton.1 now
      | _ => cases now
    · exact (host.reply_callback clock question).symm.trans (ih _ _ later)

theorem reply_answers (host : Host) (clock : Clock) (question : Question) :
    (host.reply clock question).2.answers = host.answers + calls (host.effect question) := by
  cases question with
  | interrupt => unfold reply poll; split <;> rfl
  | request request =>
    unfold reply effect
    cases host.callback <;> rfl
  | _ => rfl

theorem converse_answers (clock : Clock) (dialogue : Dialogue α) (host : Host) :
    (converse clock dialogue host).2.answers = host.answers + calls (effects clock dialogue host) := by
  induction dialogue generalizing host with
  | done result => rfl
  | ask question next ih =>
    change _ = host.answers + calls (host.effect question ++ _)
    rw [calls_append, ← Nat.add_assoc, ← host.reply_answers clock question]
    exact ih _ _

theorem reply_limit (host : Host) (clock : Clock) (question : Question) :
    (host.reply clock question).2.console.limit = host.console.limit := by
  cases question with
  | interrupt => unfold reply poll; split <;> rfl
  | write bytes => exact Console.limit_append host.console bytes
  | request request => unfold reply; split <;> rfl
  | _ => rfl

theorem converse_limit (clock : Clock) (dialogue : Dialogue α) (host : Host) :
    (converse clock dialogue host).2.console.limit = host.console.limit := by
  induction dialogue generalizing host with
  | done result => rfl
  | ask question next ih => exact (ih _ _).trans (host.reply_limit clock question)

theorem reply_holds (host : Host) (clock : Clock) (question : Question) (before : List UInt8)
    (holds : host.console.Holds before) :
    (host.reply clock question).2.console.Holds (before ++ written (host.effect question)) := by
  have unchanged : host.console.Holds (before ++ written []) := by
    rwa [show before ++ written [] = before from List.append_nil before]
  cases question with
  | interrupt => unfold reply poll; split <;> exact unchanged
  | write bytes =>
    rw [show written (host.effect (.write bytes)) = bytes.toList from List.append_nil bytes.toList]
    exact Console.holds_append host.console before bytes holds
  | request request => unfold reply effect; cases host.callback <;> exact unchanged
  | _ => exact unchanged

def output (clock : Clock) (dialogue : Dialogue α) (host : Host) : List UInt8 :=
  written (effects clock dialogue host)

theorem converse_holds (clock : Clock) (dialogue : Dialogue α) (host : Host) (before : List UInt8)
    (holds : host.console.Holds before) :
    (converse clock dialogue host).2.console.Holds (before ++ output clock dialogue host) := by
  induction dialogue generalizing host before with
  | done result =>
    rwa [show before ++ output clock (.done result) host = before from List.append_nil before]
  | ask question next ih =>
    have later := ih (host.reply clock question).1 (host.reply clock question).2 _
      (host.reply_holds clock question before holds)
    change Console.Holds _ (before ++ written (host.effect question ++ _))
    rw [written_append, ← List.append_assoc]
    exact later

/-! ### The hosts on the way -/

/-- The hosts at all points of a conversation. -/
inductive Meets (clock : Clock) : Dialogue α → Host → Host → Prop
  | here (dialogue : Dialogue α) (host : Host) : Meets clock dialogue host host
  | later (question : Question) (next : question.Answer → Dialogue α) (host met : Host)
    (rest : Meets clock (next (host.reply clock question).1) (host.reply clock question).2 met) :
    Meets clock (.ask question next) host met

theorem meets_bound (clock : Clock) (dialogue : Dialogue α) (host met : Host)
    (meets : Meets clock dialogue host met) : met.bound = host.bound := by
  induction meets with
  | here dialogue host => rfl
  | later question next host met _ ih => exact ih.trans (host.reply_bound clock question)

/-- At every moment of a conversation the console holds a start of what is written. -/
theorem meets_holds (clock : Clock) (dialogue : Dialogue α) (host met : Host) (earlier : List UInt8)
    (meets : Meets clock dialogue host met) (holds : host.console.Holds earlier) :
    ∃ sofar, sofar <+: output clock dialogue host ∧ met.console.Holds (earlier ++ sofar) := by
  induction meets generalizing earlier with
  | here dialogue host => exact ⟨[], List.nil_prefix, by rwa [List.append_nil]⟩
  | later question next host met _ ih =>
    obtain ⟨sofar, starts, held⟩ := ih _ (host.reply_holds clock question earlier holds)
    refine ⟨written (host.effect question) ++ sofar, ?_, by rwa [← List.append_assoc]⟩
    change _ <+: written (host.effect question ++ _)
    rw [written_append]
    exact List.prefix_append_right_inj _ |>.2 starts

end Host

/-! ### What is printed -/

section

variable (clock : Clock)

open Host

def following (next : α → Machine → Host → List UInt8) : Outcome α × Host → List UInt8
  | (.value result machine, host) => next result machine host
  | _ => []

theorem output_bind (first : Execution α) (next : α → Execution β) (machine : Machine) (host : Host) :
    output clock ((first >>= next) machine) host = output clock (first machine) host ++
      following (fun result machine => output clock (next result machine))
        (converse clock (first machine) host) := by
  rw [bind_eq, output, effects_bind, written_append]
  obtain ⟨outcome, after⟩ := converse clock (first machine) host
  cases outcome <;> rfl

theorem output_attempt (part : Execution α) (machine : Machine) (host : Host) :
    output clock (attempt part machine) host = output clock (part machine) host := by
  rw [attempt, output, effects_bind, written_append]
  cases (converse clock (part machine) host).1 <;> exact List.append_nil _

theorem output_quietly (part : Execution α) (machine : Machine) (host : Host) :
    output clock (quietly part machine) host = output clock (part machine) host := by
  rw [quietly, output_bind, output_attempt]
  obtain ⟨outcome, after⟩ := converse clock (attempt part machine) host
  cases outcome with
  | value ending machine =>
    cases ending with
    | stopped reason => cases reason <;> exact List.append_nil _
    | _ => exact List.append_nil _
  | _ => exact List.append_nil _

namespace Conduct

def responding (build : HttpResponse → Machine → Host → List UInt8) (url : String)
    (found : String × Option String) (machine : Machine) (host : Host) : List UInt8 :=
  match host.reply clock (.request { method := found.1, url, body := found.2, headers := [] }) with
  | (.ok response, host) => build response machine host
  | (.error _, _) => []

def addressing (options : Execution (String × Option String)) (read : Machine → Host → List UInt8)
    (build : HttpResponse → Machine → Host → List UInt8) :
    Option String → Machine → Host → List UInt8
  | none, _, _ => []
  | some url, machine, host =>
    read machine host ++ following (responding clock build url) (converse clock (options machine) host)

def resuming (next : Except Value Value → Machine → Host → List UInt8) :
    Ending Value → Machine → Host → List UInt8
  | .value response => next (.ok response)
  | .thrown reason => next (.error reason)
  | .stopped _ => fun _ _ => []

/-- The bytes that the calls of `print` write which a conduct makes, in order. The code that writes the
address of a `fetch`, reads its options or makes its response may print as well. -/
def printed : Conduct α → Machine → Host → List UInt8
  | .returns _, _, _ => []
  | .throws _, _, _ => []
  | .works change next, machine, host => (next (change machine)).printed (change machine) host
  | .polls next, machine, host =>
    if (host.reply clock .interrupt).1 then [] else next.printed machine (host.reply clock .interrupt).2
  | .time next, machine, host =>
    (next (host.reply clock .time).1).printed machine (host.reply clock .time).2
  | .uptime next, machine, host =>
    (next (host.reply clock .uptime).1).printed machine (host.reply clock .uptime).2
  | .prints values coerce next, machine, host =>
    output clock (printing values coerce machine) host ++
      following (fun _ => next.printed) (converse clock (printing values coerce machine) host)
  | .fetches given url options build next, machine, host =>
    (if host.bound && host.callback.isSome && given then
      url.printed machine host ++
        following (addressing clock options.run options.printed fun response => (build response).printed)
          (converse clock (quietly url.run machine) host)
    else []) ++
      following (resuming fun result => (next result).printed)
        (converse clock (attempt (fetching given url options build) machine) host)

theorem output_fetching (given : Bool) (url : Conduct String) (options : Conduct (String × Option String))
    (build : HttpResponse → Conduct Value) (machine : Machine) (host : Host) :
    output clock (fetching given url options build machine) host =
      if host.bound && host.callback.isSome && given then
        output clock (url.run machine) host ++
          following (fun address machine => output clock
              (Primitives.spelled options.run (fun response => (build response).run) address machine))
            (converse clock (quietly url.run machine) host)
      else [] := by
  change output clock ((if !host.bound then _ else _ : Execution Value) machine) host = _
  cases host.bound with
  | false => rfl
  | true =>
    change output clock ((if !host.callback.isSome then _ else _ : Execution Value) machine) host = _
    cases host.callback.isSome with
    | false => rfl
    | true =>
      cases given with
      | false => rfl
      | true =>
        change output clock ((quietly url.run >>= _) machine) host = _
        rw [output_bind, output_quietly]
        rfl

theorem output_spelled (options : Execution (String × Option String)) (build : HttpResponse → Execution Value)
    (address : Option String) (machine : Machine) (host : Host) :
    output clock (Primitives.spelled options build address machine) host =
      addressing clock options (fun machine => output clock (options machine))
        (fun response machine => output clock (build response machine)) address machine host := by
  cases address with
  | none => rfl
  | some url =>
    change output clock (Primitives.addressed options build url machine) host = _
    rw [Primitives.addressed, output_bind, addressing]
    congr 2
    funext found machine host
    have quiet : written (host.effect (.request { method := found.1, url, body := found.2, headers := [] })) =
        [] := by
      unfold effect
      cases host.callback <;> rfl
    change written (host.effect (.request _) ++ effects clock (Primitives.answered _ _ machine) _) = _
    rw [written_append, quiet, List.nil_append, responding]
    obtain ⟨answer, after⟩ :=
      host.reply clock (.request { method := found.1, url, body := found.2, headers := [] })
    cases answer <;> rfl

/-- Whatever a conduct writes, its calls of `print` write. -/
theorem output_run (conduct : Conduct α) (machine : Machine) (host : Host) :
    output clock (conduct.run machine) host = conduct.printed clock machine host := by
  induction conduct generalizing machine host with
  | returns result => rfl
  | throws reason => rfl
  | works change next ih => exact ih (change machine) (change machine) host
  | polls next ih =>
    change output clock ((if (host.reply clock .interrupt).1 then _ else _ : Execution _) machine) _ =
      if _ then _ else _
    cases (host.reply clock .interrupt).1 with
    | true => rfl
    | false => exact ih machine _
  | time next ih => exact ih _ machine _
  | uptime next ih => exact ih _ machine _
  | prints values coerce next _ ih =>
    have later : (fun (_ : Unit) machine => output clock (next.run machine)) =
        fun _ => next.printed clock := by
      funext _ machine host
      exact ih machine host
    rw [run_prints, output_bind, later]
    rfl
  | fetches given url options build next ihUrl ihOptions ihBuild ih =>
    have resumed : (fun ending machine => output clock (caught (fun result => (next result).run) ending machine)) =
        resuming fun result => (next result).printed clock := by
      funext ending machine host
      cases ending with
      | value response => exact ih (.ok response) machine host
      | thrown reason => exact ih (.error reason) machine host
      | stopped reason => rfl
    have spelled : (fun address machine => output clock
          (Primitives.spelled options.run (fun response => (build response).run) address machine)) =
        addressing clock options.run (options.printed clock) fun response => (build response).printed clock := by
      have read : (fun machine => output clock (options.run machine)) = options.printed clock :=
        funext fun machine => funext (ihOptions machine)
      have built : (fun response machine => output clock ((build response).run machine)) =
          fun response => (build response).printed clock :=
        funext fun response => funext fun machine => funext (ihBuild response machine)
      funext address machine host
      rw [output_spelled, read, built]
    rw [run_fetches, output_bind, output_attempt, output_fetching, resumed, spelled, ihUrl]
    rfl

/-! ### Calls that no evaluation sees -/

theorem converse_printing_of_unbound (values : List Value) (coerce : Value → Conduct (Array UInt8))
    (machine : Machine) (host : Host) (unbound : host.bound = false) :
    converse clock (printing values coerce machine) host = (.value () machine, host) := by
  change converse clock ((if host.bound then _ else _ : Execution Unit) machine) host = _
  rw [unbound]
  rfl

theorem converse_fetching_of_unbound (given : Bool) (url : Conduct String)
    (options : Conduct (String × Option String)) (build : HttpResponse → Conduct Value)
    (machine : Machine) (host : Host) (unbound : host.bound = false) :
    ∃ reason after,
      throwNew .error "fetch() called outside sandbox context" machine =
        Dialogue.done (.thrown reason after : Outcome Value) ∧
      converse clock (fetching given url options build machine) host = (.thrown reason after, host) := by
  refine ⟨_, _, rfl, ?_⟩
  change converse clock ((if !host.bound then _ else _ : Execution Value) machine) host = _
  rw [unbound]
  rfl

end Conduct

end

end ScriptSandbox
