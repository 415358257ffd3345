import ScriptSandbox.Proofs.Abort

/-!
The requests to stop that a script survives. A conduct absorbs the first request if it comes while an
argument of `print` or the address of a `fetch` is written, at any depth. A session heeds all requests to
stop exactly if its script absorbs none.
-/

namespace ScriptSandbox

open Script Script.Execution

namespace Conduct

/-- The host asks to stop for the first time while something is written that may fail to be. -/
inductive Absorbed (clock : Clock) : {α : Type} → Conduct α → Machine → Host → Prop
  | works (change : Machine → Machine) (next : Machine → Conduct α) (machine : Machine) (host : Host)
    (later : Absorbed clock (next (change machine)) (change machine) host) :
    Absorbed clock (works change next) machine host
  | polls (next : Conduct α) (machine : Machine) (host : Host) (goes : (host.poll clock).1 = false)
    (later : Absorbed clock next machine (host.poll clock).2) : Absorbed clock (polls next) machine host
  | time (next : Int → Conduct α) (machine : Machine) (host : Host)
    (later : Absorbed clock (next (host.reply clock .time).1) machine (host.reply clock .time).2) :
    Absorbed clock (time next) machine host
  | uptime (next : Float → Conduct α) (machine : Machine) (host : Host)
    (later : Absorbed clock (next (host.reply clock .uptime).1) machine (host.reply clock .uptime).2) :
    Absorbed clock (uptime next) machine host
  /-- While an argument of `print` is written. -/
  | argument (values : List Value) (coerce : Value → Conduct (Array UInt8)) (next : Conduct α)
    (machine : Machine) (host : Host)
    (stops : (Host.interruption clock (printing values coerce machine) host).isSome = true) :
    Absorbed clock (prints values coerce next) machine host
  | afterPrint (values : List Value) (coerce : Value → Conduct (Array UInt8)) (next : Conduct α)
    (machine machine' : Machine) (host after : Host)
    (printed : Host.Passes clock (printing values coerce machine) host (.value () machine') after)
    (later : Absorbed clock next machine' after) : Absorbed clock (prints values coerce next) machine host
  /-- While the address of a request is written. -/
  | address (url : Conduct String) (options : Conduct (String × Option String))
    (build : HttpResponse → Conduct Value) (next : Except Value Value → Conduct α) (machine : Machine)
    (host : Host) (serves : host.Serves)
    (stops : (Host.interruption clock (url.run machine) host).isSome = true) :
    Absorbed clock (fetches true url options build next) machine host
  /-- Within the reading of the options of a request. -/
  | options (url : Conduct String) (options : Conduct (String × Option String))
    (build : HttpResponse → Conduct Value) (next : Except Value Value → Conduct α)
    (machine machine' : Machine) (host after : Host) (text : String) (serves : host.Serves)
    (written : Host.Passes clock (url.run machine) host (.value text machine') after)
    (later : Absorbed clock options machine' after) :
    Absorbed clock (fetches true url options build next) machine host
  /-- Within the making of a response. -/
  | response (url : Conduct String) (options : Conduct (String × Option String))
    (build : HttpResponse → Conduct Value) (next : Except Value Value → Conduct α)
    (machine machine' machine'' : Machine) (host after after' answered : Host) (text method : String)
    (body : Option String) (response : HttpResponse) (serves : host.Serves)
    (written : Host.Passes clock (url.run machine) host (.value text machine') after)
    (read : Host.Passes clock (options.run machine') after (.value (method, body) machine'') after')
    (answers : after'.reply clock (.request { method, url := text, body, headers := [] }) =
      (.ok response, answered))
    (later : Absorbed clock (build response) machine'' answered) :
    Absorbed clock (fetches true url options build next) machine host
  | afterResponse (given : Bool) (url : Conduct String) (options : Conduct (String × Option String))
    (build : HttpResponse → Conduct Value) (next : Except Value Value → Conduct α)
    (machine machine' : Machine) (host after : Host) (response : Value)
    (fetched : Host.Passes clock (attempt (fetching given url options build) machine) host
      (.value (.value response) machine') after)
    (later : Absorbed clock (next (.ok response)) machine' after) :
    Absorbed clock (fetches given url options build next) machine host
  | afterRefusal (given : Bool) (url : Conduct String) (options : Conduct (String × Option String))
    (build : HttpResponse → Conduct Value) (next : Except Value Value → Conduct α)
    (machine machine' : Machine) (host after : Host) (reason : Value)
    (fetched : Host.Passes clock (attempt (fetching given url options build) machine) host
      (.value (.thrown reason) machine') after)
    (later : Absorbed clock (next (.error reason)) machine' after) :
    Absorbed clock (fetches given url options build next) machine host

theorem alive_run (conduct : Conduct α) : Alive conduct.run := by
  induction conduct with
  | returns result => exact nofun
  | throws reason => exact nofun
  | works change next ih => exact fun machine => ih (change machine) (change machine)
  | polls next ih => exact alive_ask .interrupt _
  | time next ih => exact alive_ask .time _
  | uptime next ih => exact alive_ask .uptime _
  | prints values coerce next _ ih =>
    exact alive_bind (printing values coerce) _ (fun _ => Dialogue.not_halted_ask _ _) fun _ => ih
  | fetches given url options build next _ _ _ ih =>
    rw [run_fetches]
    exact fun _ => Dialogue.not_halted_ask _ _

def resumed (start : Machine) (next : Except Value Value → Conduct α) (outcome : Outcome Value) :
    Dialogue (Outcome α) :=
  (settle start.depth start.waiting outcome).bind (follow (caught fun result => (next result).run))

theorem run_fetches_apply (given : Bool) (url : Conduct String) (options : Conduct (String × Option String))
    (build : HttpResponse → Conduct Value) (next : Except Value Value → Conduct α) (machine : Machine) :
    (fetches given url options build next).run machine =
      (fetching given url options build machine).bind (resumed machine next) := by
  rw [run_fetches, bind_eq, attempt, Dialogue.bind_assoc]
  rfl

theorem relays_resumed (start : Machine) (next : Except Value Value → Conduct α) :
    Relays (resumed start next) := by
  intro outcome
  cases outcome with
  | value response machine => exact iff_of_false (alive_run (next (.ok response)) _) nofun
  | thrown reason machine => exact iff_of_false (alive_run (next (.error reason)) _) nofun
  | stopped reason machine =>
    constructor
    · rintro ⟨_, ⟨⟩⟩
      exact ⟨machine, rfl⟩
    · rintro ⟨_, ⟨⟩⟩
      exact ⟨_, rfl⟩

def polled (next : Conduct α) : Bool → Execution α
  | true => stop .interrupted
  | false => next.run

theorem run_polls_apply (next : Conduct α) (machine : Machine) :
    (polls next).run machine = .ask .interrupt fun stops => polled next stops machine := by
  refine congrArg (Dialogue.ask .interrupt) (funext fun stops => ?_)
  cases stops <;> rfl

theorem passes_attempt_iff (clock : Clock) (part : Execution α) (machine : Machine) (host after : Host)
    (result : Outcome (Ending α)) : Host.Passes clock (attempt part machine) host result after ↔
      ∃ outcome, Host.Passes clock (part machine) host outcome after ∧
        settle machine.depth machine.waiting outcome = .done result := by
  have settles (outcome : Outcome α) :
      ∃ result, settle machine.depth machine.waiting outcome = .done result := by
    cases outcome <;> exact ⟨_, rfl⟩
  unfold Host.Passes attempt
  rw [Host.converse_bind, Host.interruption_bind]
  obtain ⟨result', same⟩ := settles (Host.converse clock (part machine) host).1
  cases Host.interruption clock (part machine) host with
  | some left => exact ⟨fun ends => absurd ends.1 (Option.some_ne_none _), fun ⟨_, ends, _⟩ =>
      absurd ends.1 (Option.some_ne_none _)⟩
  | none =>
    simp only [same, Host.converse, Host.interruption, true_and]
    constructor
    · intro ends
      obtain ⟨rfl, rfl⟩ := Prod.mk.inj ends
      exact ⟨_, rfl, same⟩
    · rintro ⟨outcome, ends, found⟩
      rw [ends] at same ⊢
      rw [found] at same
      cases same
      rfl

/-! ### One step of a conduct -/

theorem absorbed_works_iff (clock : Clock) (change : Machine → Machine) (next : Machine → Conduct α)
    (machine : Machine) (host : Host) : (works change next).Absorbed clock machine host ↔
      (next (change machine)).Absorbed clock (change machine) host := by
  refine ⟨fun absorbed => ?_, .works change next machine host⟩
  cases absorbed with
  | works _ _ _ _ later => exact later

theorem absorbed_time_iff (clock : Clock) (next : Int → Conduct α) (machine : Machine) (host : Host) :
    (time next).Absorbed clock machine host ↔
      (next (host.reply clock .time).1).Absorbed clock machine (host.reply clock .time).2 := by
  refine ⟨fun absorbed => ?_, .time next machine host⟩
  cases absorbed with
  | time _ _ _ later => exact later

theorem absorbed_uptime_iff (clock : Clock) (next : Float → Conduct α) (machine : Machine) (host : Host) :
    (uptime next).Absorbed clock machine host ↔
      (next (host.reply clock .uptime).1).Absorbed clock machine (host.reply clock .uptime).2 := by
  refine ⟨fun absorbed => ?_, .uptime next machine host⟩
  cases absorbed with
  | uptime _ _ _ later => exact later

theorem absorbed_polls_iff (clock : Clock) (next : Conduct α) (machine : Machine) (host : Host) :
    (polls next).Absorbed clock machine host ↔
      (host.poll clock).1 = false ∧ next.Absorbed clock machine (host.poll clock).2 := by
  refine ⟨fun absorbed => ?_, fun ⟨goes, later⟩ => .polls next machine host goes later⟩
  cases absorbed with
  | polls _ _ _ goes later => exact ⟨goes, later⟩

theorem heeds_polls_iff (clock : Clock) (next : Conduct α) (machine : Machine) (host : Host) :
    Host.Heeds clock ((polls next).run machine) host ↔
      ((host.poll clock).1 = false → Host.Heeds clock (next.run machine) (host.poll clock).2) := by
  rw [run_polls_apply]
  cases goes : (host.poll clock).1 with
  | true =>
    refine iff_of_true (fun rest after found => ?_) nofun
    rw [Host.interruption_of_stops clock .interrupt _ host goes] at found
    obtain ⟨rfl, -⟩ := Prod.mk.inj (Option.some.inj found)
    exact ⟨machine, congrArg (fun stops => polled next stops machine) goes⟩
  | false =>
    have continues : polled next (host.poll clock).1 machine = next.run machine :=
      congrArg (fun stops => polled next stops machine) goes
    refine (Host.heeds_ask clock .interrupt _ host goes).trans ?_
    rw [Host.reply, continues]
    exact ⟨fun heeds _ => heeds, fun heeds => heeds rfl⟩

theorem absorbed_prints_iff (clock : Clock) (values : List Value) (coerce : Value → Conduct (Array UInt8))
    (next : Conduct α) (machine : Machine) (host : Host) :
    (prints values coerce next).Absorbed clock machine host ↔
      (Host.interruption clock (printing values coerce machine) host).isSome = true ∨
      ∃ machine' after, Host.Passes clock (printing values coerce machine) host (.value () machine') after ∧
        next.Absorbed clock machine' after := by
  constructor
  · intro absorbed
    cases absorbed with
    | argument _ _ _ _ _ stops => exact .inl stops
    | afterPrint _ _ _ _ machine' _ after printed later => exact .inr ⟨machine', after, printed, later⟩
  · rintro (stops | ⟨machine', after, printed, later⟩)
    · exact .argument values coerce next machine host stops
    · exact .afterPrint values coerce next machine machine' host after printed later

theorem heeds_prints_iff (clock : Clock) (values : List Value) (coerce : Value → Conduct (Array UInt8))
    (next : Conduct α) (machine : Machine) (host : Host) :
    Host.Heeds clock ((prints values coerce next).run machine) host ↔
      Host.interruption clock (printing values coerce machine) host = none ∧
      ∀ machine' after, Host.Passes clock (printing values coerce machine) host (.value () machine') after →
        Host.Heeds clock (next.run machine') after := by
  have ignored := Host.heeds_iff_of_ignores clock (printing values coerce machine) host
    (ignores_printWith _ clock values machine host)
  rw [run_prints, bind_eq, Host.heeds_bind_iff _ _ _ _ (relays_follow _ fun _ => alive_run next), ignored]
  refine and_congr_right fun _ => ⟨fun heeds machine' after => heeds (.value () machine') after, ?_⟩
  intro heeds outcome after printed
  cases outcome with
  | value result machine' => exact heeds machine' after printed
  | thrown reason machine' => exact Host.heeds_done clock _ _
  | stopped reason machine' => exact Host.heeds_done clock _ _

section

variable (clock : Clock) (url : Conduct String) (options : Conduct (String × Option String))
  (build : HttpResponse → Conduct Value) (next : Except Value Value → Conduct α) (machine : Machine)
  (host : Host)

theorem absorbed_fetches_iff (given : Bool) :
    (fetches given url options build next).Absorbed clock machine host ↔
      (given = true ∧ host.Serves ∧ ((Host.interruption clock (url.run machine) host).isSome = true ∨
        ∃ text machine' after, Host.Passes clock (url.run machine) host (.value text machine') after ∧
          (options.Absorbed clock machine' after ∨ ∃ method body machine'' after',
            Host.Passes clock (options.run machine') after (.value (method, body) machine'') after' ∧
            ∃ response answered,
              after'.reply clock (.request { method, url := text, body, headers := [] }) =
                (.ok response, answered) ∧
              (build response).Absorbed clock machine'' answered))) ∨
      (∃ response machine' after, Host.Passes clock (attempt (fetching given url options build) machine) host
        (.value (.value response) machine') after ∧ (next (.ok response)).Absorbed clock machine' after) ∨
      (∃ reason machine' after, Host.Passes clock (attempt (fetching given url options build) machine) host
        (.value (.thrown reason) machine') after ∧ (next (.error reason)).Absorbed clock machine' after) := by
  constructor
  · intro absorbed
    cases absorbed with
    | address _ _ _ _ _ _ serves stops => exact .inl ⟨rfl, serves, .inl stops⟩
    | options _ _ _ _ _ machine' _ after text serves written later =>
      exact .inl ⟨rfl, serves, .inr ⟨text, machine', after, written, .inl later⟩⟩
    | response _ _ _ _ _ machine' machine'' _ after after' answered text method body response serves written
        read answers later =>
      exact .inl ⟨rfl, serves, .inr ⟨text, machine', after, written,
        .inr ⟨method, body, machine'', after', read, response, answered, answers, later⟩⟩⟩
    | afterResponse _ _ _ _ _ _ machine' _ after response fetched later =>
      exact .inr (.inl ⟨response, machine', after, fetched, later⟩)
    | afterRefusal _ _ _ _ _ _ machine' _ after reason fetched later =>
      exact .inr (.inr ⟨reason, machine', after, fetched, later⟩)
  · rintro (⟨rfl, serves, stops | ⟨text, machine', after, written, later |
      ⟨method, body, machine'', after', read, response, answered, answers, later⟩⟩⟩ |
      ⟨response, machine', after, fetched, later⟩ | ⟨reason, machine', after, fetched, later⟩)
    · exact .address url options build next machine host serves stops
    · exact .options url options build next machine machine' host after text serves written later
    · exact .response url options build next machine machine' machine'' host after after' answered text method
        body response serves written read answers later
    · exact .afterResponse given url options build next machine machine' host after response fetched later
    · exact .afterRefusal given url options build next machine machine' host after reason fetched later

theorem heeds_fetching_iff (given : Bool) :
    Host.Heeds clock (fetching given url options build machine) host ↔
      (given = true → host.Serves → Host.interruption clock (url.run machine) host = none ∧
        ∀ text machine' after, Host.Passes clock (url.run machine) host (.value text machine') after →
          Host.Heeds clock (options.run machine') after ∧ ∀ method body machine'' after',
            Host.Passes clock (options.run machine') after (.value (method, body) machine'') after' →
            ∀ response answered,
              after'.reply clock (.request { method, url := text, body, headers := [] }) =
                (.ok response, answered) →
              Host.Heeds clock ((build response).run machine'') answered) := by
  cases given with
  | false => exact iff_of_true (heeds_requestWith_none _ _ clock machine host) nofun
  | true =>
    refine (heeds_requestWith _ _ clock url.run machine host (alive_run options)).trans ?_
    simp only [heeds_addressed, true_implies]

theorem heeds_fetches_iff (given : Bool) :
    Host.Heeds clock ((fetches given url options build next).run machine) host ↔
      Host.Heeds clock (fetching given url options build machine) host ∧
      (∀ response machine' after,
        Host.Passes clock (attempt (fetching given url options build) machine) host
          (.value (.value response) machine') after →
        Host.Heeds clock ((next (.ok response)).run machine') after) ∧
      (∀ reason machine' after,
        Host.Passes clock (attempt (fetching given url options build) machine) host
          (.value (.thrown reason) machine') after →
        Host.Heeds clock ((next (.error reason)).run machine') after) := by
  rw [run_fetches_apply, Host.heeds_bind_iff _ _ _ _ (relays_resumed machine next)]
  simp only [passes_attempt_iff]
  refine and_congr_right fun _ => ⟨fun heeds => ⟨?_, ?_⟩, ?_⟩
  · rintro response machine' after ⟨outcome, ended, settled⟩
    have resumes := heeds outcome after ended
    rw [resumed, settled] at resumes
    exact resumes
  · rintro reason machine' after ⟨outcome, ended, settled⟩
    have resumes := heeds outcome after ended
    rw [resumed, settled] at resumes
    exact resumes
  · rintro ⟨responds, refuses⟩ outcome after ended
    cases outcome with
    | value response machine' => exact responds response machine' after ⟨_, ended, rfl⟩
    | thrown reason machine' => exact refuses reason _ after ⟨_, ended, rfl⟩
    | stopped reason machine' => exact Host.heeds_done clock _ _

end

/-! ### A whole conduct -/

theorem heeds_run_iff (clock : Clock) (conduct : Conduct α) (machine : Machine) (host : Host) :
    Host.Heeds clock (conduct.run machine) host ↔ ¬ conduct.Absorbed clock machine host := by
  induction conduct generalizing machine host with
  | returns result => exact iff_of_true (Host.heeds_done clock _ host) nofun
  | throws reason => exact iff_of_true (Host.heeds_done clock _ host) nofun
  | works change next ih =>
    rw [absorbed_works_iff]
    exact ih (change machine) (change machine) host
  | polls next ih =>
    rw [heeds_polls_iff, absorbed_polls_iff, not_and]
    exact imp_congr_right fun _ => ih machine _
  | time next ih =>
    rw [absorbed_time_iff]
    exact (Host.heeds_ask clock .time _ host rfl).trans (ih _ machine _)
  | uptime next ih =>
    rw [absorbed_uptime_iff]
    exact (Host.heeds_ask clock .uptime _ host rfl).trans (ih _ machine _)
  | prints values coerce next _ ih =>
    rw [heeds_prints_iff, absorbed_prints_iff]
    simp only [ih, not_or, not_exists, not_and, Option.not_isSome_iff_eq_none]
  | fetches given url options build next _ ihOptions ihBuild ih =>
    rw [heeds_fetches_iff, heeds_fetching_iff, absorbed_fetches_iff]
    simp only [ihOptions, ihBuild, ih, not_or, not_exists, not_and, Option.not_isSome_iff_eq_none]

end Conduct

namespace Session

/-- From the first request to stop on, in any stage, nothing more is written or fetched; and while the
primitives see the evaluation, the script is left at once. -/
def HeedsStops [Runtime] (session : Session) (clock : Clock) (code : String) : Prop :=
  ∀ {α : Type} (part : Execution α) (stage : Session), session.Stage clock code part stage →
    ∀ rest after, Host.interruption clock (part stage.machine) stage.host = some (rest, after) →
      after.Untouched (session.eval clock code).2.host ∧ (after.bound = true → rest.Halted)

/-- Whatever a script does, its session heeds all requests to stop, unless the script is asked to stop for
the first time while an argument of `print` or the address of a `fetch` is written. -/
theorem heedsStops_iff (behaviour : Behaviour) (session : Session) (clock : Clock) (code : String) :
    @HeedsStops behaviour.runtime session clock code ↔
      ¬ (code.contains '\x00' = false ∧ (behaviour.program (Units.ofString code)).Absorbed clock
        (session.begun clock).machine (session.begun clock).host) := by
  let := behaviour.runtime
  have heeds_iff := (behaviour.program (Units.ofString code)).heeds_run_iff clock
    (session.begun clock).machine (session.begun clock).host
  have ending := eval_untouched behaviour.silent_surface session clock code
  constructor
  · rintro heedsStops ⟨clean, absorbed⟩
    refine heeds_iff.1 (fun rest after found => ?_) absorbed
    have bound := Host.interruption_bound clock _ rest _ after found
    exact (heedsStops _ _ (.evaluation clean) rest after found).2 bound
  · intro notAbsorbed α part stage reached rest after found
    have same := Host.interruption_bound clock _ rest _ after found
    cases reached with
    | evaluation clean =>
      -- The script is left at once, so all that can still happen is the conversion and the end.
      have heeds := heeds_iff.2 fun absorbed => notAbsorbed ⟨clean, absorbed⟩
      obtain ⟨machine, halted⟩ := heeds rest after found
      refine ⟨?_, fun _ => ⟨machine, halted⟩⟩
      have ended := Host.converse_of_interruption clock _ rest _ after found
      rw [halted] at ended
      have converted := evaluated_untouched behaviour.silent_surface (session.begun clock) clock code clean
      rw [run_host, ended] at converted
      exact converted.trans _ _ _ ending
    | conversion clean value before ran =>
      refine ⟨?_, fun bound => absurd (same.symm.trans bound) Bool.false_ne_true⟩
      have silent := Marshal.silent_fromScript behaviour.silent_surface value
      have now := Host.interruption_untouched clock _ rest _ after rfl (silent _) found
      have converted := evaluated_untouched behaviour.silent_surface (session.begun clock) clock code clean
      rw [ran] at converted
      exact now.of_common _ _ _ (converted.trans _ _ _ ending)
    | classification reason _ threw early =>
      have unbound := (session.begun clock).evaluated_bound clock code
      rw [threw] at unbound ending
      refine ⟨?_, fun bound => absurd ((same.trans unbound).symm.trans bound) Bool.false_ne_true⟩
      have silent := ScriptException.silent_classify behaviour.silent_surface reason
      have now := Host.interruption_untouched clock _ rest _ after unbound (silent _) found
      exact now.of_common _ _ _ ending

def slowAddress : Behaviour where
  program _ := .fetches true (.polls (.returns "")) (.returns ("GET", none)) (fun _ => .returns .null)
    fun _ => .prints [] (fun _ => .returns #[]) (.returns .null)
  toUnits _ := .returns #[]
  get _ _ := .returns .undefined
  isArray _ := .returns false
  lengthOf _ := .returns 0
  define _ _ := .returns ()

def refusing : Session :=
  (brief 60).setCallback (some { records := false, answer := fun _ _ => .error [] })

theorem slowAddress_ignores_stop : ¬ @HeedsStops slowAddress.runtime refusing slowPolls "" := by
  let := slowAddress.runtime
  intro heedsStops
  have clean : "".contains '\x00' = false := by simp
  have absorbed : (slowAddress.program (Units.ofString "")).Absorbed slowPolls
      (refusing.begun slowPolls).machine (refusing.begun slowPolls).host :=
    .address _ _ _ _ _ _ ⟨rfl, rfl⟩ rfl
  refine ((slowAddress.program (Units.ofString "")).heeds_run_iff slowPolls _ _).1 ?_ absorbed
  intro rest after found
  have bound := Host.interruption_bound slowPolls _ rest _ after found
  exact (heedsStops _ _ (.evaluation clean) rest after found).2 bound

end Session

end ScriptSandbox
