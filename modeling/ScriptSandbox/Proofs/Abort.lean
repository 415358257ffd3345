import ScriptSandbox.Proofs.Conduct
import ScriptSandbox.Proofs.Stages

/-!
What becomes of a request to stop. Where it reaches a script, the script is left at once, and nothing is
written or requested any more. The primitives hand it on as well, but for two places: `print` leaves out an
argument whose writing is stopped, and `fetch` complains about an address whose writing is stopped. There
the script goes on, and these are the only places.
-/

namespace ScriptSandbox

open Script Script.Execution

/-- A computation that has been stopped by the host and does nothing any more. -/
def Dialogue.Halted (dialogue : Dialogue (Outcome α)) : Prop :=
  ∃ machine, dialogue = .done (.stopped .interrupted machine)

theorem Dialogue.halted_done_iff (outcome : Outcome α) :
    (Dialogue.done outcome).Halted ↔ ∃ machine, outcome = .stopped .interrupted machine := by
  constructor
  · rintro ⟨machine, same⟩
    exact ⟨machine, Dialogue.done.inj same⟩
  · rintro ⟨machine, rfl⟩
    exact ⟨machine, rfl⟩

theorem Dialogue.not_halted_ask (question : Question) (next : question.Answer → Dialogue (Outcome α)) :
    ¬ (Dialogue.ask question next).Halted := nofun

theorem Dialogue.not_halted_bind (first : Dialogue α) (next : α → Dialogue (Outcome β))
    (alive : ∀ result, ¬ (next result).Halted) : ¬ (first.bind next).Halted := by
  cases first with
  | done result => exact alive result
  | ask question rest => exact Dialogue.not_halted_ask _ _

/-- What follows an outcome, if it hands on stops and stops for no other reason. -/
def Relays (next : Outcome α → Dialogue (Outcome β)) : Prop :=
  ∀ outcome, (next outcome).Halted ↔ ∃ machine, outcome = .stopped .interrupted machine

theorem halted_bind (first : Dialogue (Outcome α)) (next : Outcome α → Dialogue (Outcome β))
    (relays : Relays next) : (first.bind next).Halted ↔ first.Halted := by
  cases first with
  | done outcome => rw [Dialogue.done_bind, relays outcome, Dialogue.halted_done_iff]
  | ask question rest =>
    exact iff_of_false (Dialogue.not_halted_ask question _) (Dialogue.not_halted_ask question _)

/-- A computation that is not stopped before it has asked anything. -/
def Alive (part : Execution α) : Prop := ∀ machine, ¬ (part machine).Halted

theorem relays_follow (next : α → Execution β) (alive : ∀ result, Alive (next result)) :
    Relays (follow next) := by
  intro outcome
  cases outcome with
  | value result machine => exact iff_of_false (alive result machine) nofun
  | thrown reason machine => exact iff_of_false nofun nofun
  | stopped reason machine =>
    constructor
    · rintro ⟨_, ⟨⟩⟩
      exact ⟨machine, rfl⟩
    · rintro ⟨_, ⟨⟩⟩
      exact ⟨machine, rfl⟩

theorem alive_bind (first : Execution α) (next : α → Execution β) (alive : Alive first)
    (later : ∀ result, Alive (next result)) : Alive (first >>= next) := by
  intro machine
  rw [bind_eq, halted_bind _ _ (relays_follow next later)]
  exact alive machine

theorem alive_ask (question : Question) (next : question.Answer → Execution α) : Alive (ask question >>= next) :=
  fun _ => Dialogue.not_halted_ask _ _

theorem alive_throwNew (cls : ErrorClass) (message : String) : Alive (throwNew cls message : Execution α) :=
  nofun

/-! ### Heeding a stop -/

namespace Host

/-- From the first stop on nothing is done. -/
def Heeds (clock : Clock) (dialogue : Dialogue (Outcome α)) (host : Host) : Prop :=
  ∀ rest after, interruption clock dialogue host = some (rest, after) → rest.Halted

/-- From the first stop on something is done, if only that an outcome is given that is no stop. -/
def Ignores (clock : Clock) (dialogue : Dialogue (Outcome α)) (host : Host) : Prop :=
  ∀ rest after, interruption clock dialogue host = some (rest, after) → ¬ rest.Halted

theorem heeds_of_none (clock : Clock) (dialogue : Dialogue (Outcome α)) (host : Host)
    (absent : interruption clock dialogue host = none) : Heeds clock dialogue host := by
  intro rest after found
  rw [absent] at found
  cases found

theorem heeds_done (clock : Clock) (outcome : Outcome α) (host : Host) :
    Heeds clock (.done outcome) host := heeds_of_none clock _ host rfl

theorem ignores_done (clock : Clock) (outcome : Outcome α) (host : Host) :
    Ignores clock (.done outcome) host := by
  intro rest after found
  rw [interruption] at found
  cases found

theorem heeds_iff_of_ignores (clock : Clock) (dialogue : Dialogue (Outcome α)) (host : Host)
    (ignores : Ignores clock dialogue host) :
    Heeds clock dialogue host ↔ interruption clock dialogue host = none := by
  constructor
  · intro heeds
    cases found : interruption clock dialogue host with
    | none => rfl
    | some left => exact absurd (heeds left.1 left.2 found) (ignores left.1 left.2 found)
  · exact heeds_of_none clock dialogue host

theorem heeds_ask (clock : Clock) (question : Question) (next : question.Answer → Dialogue (Outcome α))
    (host : Host) (goes : question.stops (host.reply clock question).1 = false) :
    Heeds clock (.ask question next) host ↔
      Heeds clock (next (host.reply clock question).1) (host.reply clock question).2 := by
  unfold Heeds
  rw [interruption_of_goes clock question next host goes]

theorem ignores_ask (clock : Clock) (question : Question) (next : question.Answer → Dialogue (Outcome α))
    (host : Host) (goes : question.stops (host.reply clock question).1 = false)
    (later : Ignores clock (next (host.reply clock question).1) (host.reply clock question).2) :
    Ignores clock (.ask question next) host := by
  unfold Ignores
  rw [interruption_of_goes clock question next host goes]
  exact later

theorem heeds_bind_iff (clock : Clock) (first : Dialogue (Outcome α))
    (next : Outcome α → Dialogue (Outcome β)) (host : Host) (relays : Relays next) :
    Heeds clock (first.bind next) host ↔ Heeds clock first host ∧
      ∀ outcome after, Passes clock first host outcome after → Heeds clock (next outcome) after := by
  unfold Heeds Passes
  cases found : interruption clock first host with
  | none =>
    rw [interruption_bind_of_none clock first next host found]
    constructor
    · rintro heeds
      refine ⟨fun _ _ same => absurd same.symm (Option.some_ne_none _), fun outcome after ends => ?_⟩
      rw [ends.2] at heeds
      exact heeds
    · exact fun heeds => heeds.2 _ _ ⟨rfl, rfl⟩
  | some left =>
    rw [interruption_bind_of_some clock first next host left.2 left.1 found]
    constructor
    · intro heeds
      refine ⟨fun rest after same => ?_, fun outcome after ends => absurd ends.1 (Option.some_ne_none _)⟩
      cases same
      exact (halted_bind _ _ relays).1 (heeds _ _ rfl)
    · intro heeds rest after same
      cases same
      exact (halted_bind _ _ relays).2 (heeds.1 _ _ rfl)

theorem ignores_bind (clock : Clock) (first : Dialogue (Outcome α))
    (next : Outcome α → Dialogue (Outcome β)) (host : Host) (relays : Relays next)
    (ignores : Ignores clock first host)
    (later : Ignores clock (next (converse clock first host).1) (converse clock first host).2) :
    Ignores clock (first.bind next) host := by
  intro rest after
  cases found : interruption clock first host with
  | none =>
    rw [interruption_bind_of_none clock first next host found]
    exact later rest after
  | some left =>
    rw [interruption_bind_of_some clock first next host left.2 left.1 found]
    intro same
    cases same
    rw [halted_bind _ _ relays]
    exact ignores _ _ found

theorem ignores_bind_of_alive (clock : Clock) (first : Dialogue (Outcome α))
    (next : Outcome α → Dialogue (Outcome β)) (host : Host)
    (alive : ∀ outcome, ¬ (next outcome).Halted)
    (later : Ignores clock (next (converse clock first host).1) (converse clock first host).2) :
    Ignores clock (first.bind next) host := by
  intro rest after
  cases found : interruption clock first host with
  | none =>
    rw [interruption_bind_of_none clock first next host found]
    exact later rest after
  | some left =>
    rw [interruption_bind_of_some clock first next host left.2 left.1 found]
    intro same
    cases same
    exact Dialogue.not_halted_bind left.1 next alive

theorem heeds_bind_of_alive_iff (clock : Clock) (first : Dialogue (Outcome α))
    (next : Outcome α → Dialogue (Outcome β)) (host : Host)
    (alive : ∀ outcome, ¬ (next outcome).Halted) :
    Heeds clock (first.bind next) host ↔ interruption clock first host = none ∧
      ∀ outcome after, Passes clock first host outcome after → Heeds clock (next outcome) after := by
  unfold Heeds Passes
  cases found : interruption clock first host with
  | none =>
    rw [interruption_bind_of_none clock first next host found]
    constructor
    · intro heeds
      refine ⟨rfl, fun outcome after ends => ?_⟩
      rw [ends.2] at heeds
      exact heeds
    · exact fun heeds => heeds.2 _ _ ⟨rfl, rfl⟩
  | some left =>
    rw [interruption_bind_of_some clock first next host left.2 left.1 found]
    refine iff_of_false (fun heeds => ?_) fun both => absurd both.1 (Option.some_ne_none _)
    exact Dialogue.not_halted_bind left.1 next alive (heeds _ _ rfl)

def Serves (host : Host) : Prop := host.bound = true ∧ host.callback.isSome = true

end Host

/-! ### The primitives -/

def hush (start : Machine) (next : Option α → Execution β) : Outcome α → Dialogue (Outcome β)
  | .value result machine => next (some result) machine
  | .thrown _ machine => next none { machine with depth := start.depth, waiting := start.waiting }
  | .stopped .interrupted machine => next none { machine with depth := start.depth, waiting := start.waiting }
  | .stopped .exhausted machine =>
    .done (.stopped .exhausted { machine with depth := start.depth, waiting := start.waiting })

theorem quietly_bind (part : Execution α) (next : Option α → Execution β) (machine : Machine) :
    (quietly part >>= next) machine = (part machine).bind (hush machine next) := by
  rw [bind_eq, quietly, bind_eq, attempt, Dialogue.bind_assoc, Dialogue.bind_assoc]
  congr 1
  funext outcome
  cases outcome with
  | value result machine => rfl
  | thrown reason machine => rfl
  | stopped reason machine => cases reason <;> rfl

theorem not_halted_hush (start : Machine) (next : Option α → Execution β) (alive : ∀ result, Alive (next result))
    (outcome : Outcome α) : ¬ (hush start next outcome).Halted := by
  cases outcome with
  | value result machine => exact alive _ _
  | thrown reason machine => exact alive _ _
  | stopped reason machine =>
    cases reason with
    | interrupted => exact alive _ _
    | exhausted => exact nofun

section

variable (coerce : Value → Execution (Array UInt8))

open Primitives printWith

def offered (rest : List Value) : Option (Array UInt8) → Execution Unit
  | some bytes => ask (.write bytes) >>= fun _ => printItems coerce rest false
  | none => printItems coerce rest false

theorem printItems_cons (value : Value) (rest : List Value) (first : Bool) :
    printItems coerce (value :: rest) first =
      if first then quietly (coerce value) >>= offered coerce rest
      else ask (.write #[32]) >>= fun _ => quietly (coerce value) >>= offered coerce rest := by
  cases first <;> rfl

theorem alive_printItems (values : List Value) (first : Bool) : Alive (printItems coerce values first) := by
  induction values generalizing first with
  | nil => exact nofun
  | cons value rest ih =>
    have alive (written : Option (Array UInt8)) : Alive (offered coerce rest written) := by
      cases written with
      | some bytes => exact alive_ask _ _
      | none => exact ih false
    rw [printItems_cons]
    cases first with
    | false => exact alive_ask _ _
    | true =>
      intro machine
      rw [if_pos rfl, quietly_bind]
      exact Dialogue.not_halted_bind _ _ (not_halted_hush machine _ alive)

theorem ignores_printItems (clock : Clock) (values : List Value) (first : Bool) (machine : Machine)
    (host : Host) : Host.Ignores clock (printItems coerce values first machine) host := by
  induction values generalizing first machine host with
  | nil => exact Host.ignores_done clock _ host
  | cons value rest ih =>
    have alive (written : Option (Array UInt8)) : Alive (offered coerce rest written) := by
      cases written with
      | some bytes => exact alive_ask _ _
      | none => exact alive_printItems coerce rest false
    have later (written : Option (Array UInt8)) (machine : Machine) (host : Host) :
        Host.Ignores clock (offered coerce rest written machine) host := by
      cases written with
      | some bytes => exact Host.ignores_ask clock _ _ host rfl (ih false machine _)
      | none => exact ih false machine host
    have written (machine : Machine) (host : Host) :
        Host.Ignores clock ((quietly (coerce value) >>= offered coerce rest) machine) host := by
      rw [quietly_bind]
      refine Host.ignores_bind_of_alive clock _ _ host (not_halted_hush machine _ alive) ?_
      cases (Host.converse clock (coerce value machine) host).1 with
      | value result machine => exact later (some result) machine _
      | thrown reason machine => exact later none _ _
      | stopped reason machine =>
        cases reason with
        | interrupted => exact later none _ _
        | exhausted => exact Host.ignores_done clock _ _
    rw [printItems_cons]
    cases first with
    | false => exact Host.ignores_ask clock _ _ host rfl (written machine _)
    | true => exact written machine host

theorem ignores_printWith (clock : Clock) (values : List Value) (machine : Machine) (host : Host) :
    Host.Ignores clock (printWith coerce values machine) host := by
  refine Host.ignores_ask clock .bound _ host rfl ?_
  cases bound : (host.reply clock .bound).1 with
  | false => exact Host.ignores_done clock _ _
  | true =>
    show Host.Ignores clock ((printItems coerce values true >>= fun _ => ask (.write #[10])) machine) _
    rw [bind_eq]
    refine Host.ignores_bind clock _ _ _ (relays_follow _ fun _ => alive_ask _ pure) ?_ ?_
    · exact ignores_printItems coerce clock values true machine _
    · cases (Host.converse clock (printItems coerce values true machine) _).1 with
      | value result machine => exact Host.ignores_ask clock _ _ _ rfl (Host.ignores_done clock _ _)
      | thrown reason machine => exact Host.ignores_done clock _ _
      | stopped reason machine => exact Host.ignores_done clock _ _

end

section

open Primitives

variable (options : Execution (String × Option String)) (build : HttpResponse → Execution Value)

theorem alive_addressed (alive : Alive options) (url : String) : Alive (addressed options build url) :=
  alive_bind _ _ alive fun _ => alive_ask _ _

theorem alive_spelled (alive : Alive options) (url : Option String) : Alive (spelled options build url) := by
  cases url with
  | none => exact alive_throwNew _ _
  | some url => exact alive_addressed options build alive url

theorem heeds_answered (clock : Clock) (answer : Except (List String) HttpResponse) (machine : Machine)
    (host : Host) : Host.Heeds clock (answered build answer machine) host ↔
      ∀ response, answer = .ok response → Host.Heeds clock (build response machine) host := by
  cases answer with
  | ok response => exact ⟨fun heeds _ same => by cases same; exact heeds, fun heeds => heeds response rfl⟩
  | error reports => exact iff_of_true (Host.heeds_done clock _ _) nofun

theorem heeds_addressed (clock : Clock) (url : String) (machine : Machine) (host : Host) :
    Host.Heeds clock (addressed options build url machine) host ↔
      Host.Heeds clock (options machine) host ∧ ∀ method body machine' after,
        Host.Passes clock (options machine) host (.value (method, body) machine') after →
        ∀ response answered,
          after.reply clock (.request { method, url, body, headers := [] }) = (.ok response, answered) →
          Host.Heeds clock (build response machine') answered := by
  rw [addressed, bind_eq, Host.heeds_bind_iff _ _ _ _ (relays_follow _ fun _ => alive_ask _ _)]
  refine and_congr_right fun _ => ?_
  have asked (method : String) (body : Option String) (machine' : Machine) (after : Host) :
      Host.Heeds clock (follow (fun found => ask (.request { method := found.1, url, body := found.2, headers := [] })
        >>= answered build) (.value (method, body) machine')) after ↔ ∀ response answered,
          after.reply clock (.request { method, url, body, headers := [] }) = (.ok response, answered) →
          Host.Heeds clock (build response machine') answered := by
    refine (Host.heeds_ask clock _ _ after rfl).trans ((heeds_answered build clock _ machine' _).trans ?_)
    constructor
    · intro heeds response answered same
      rw [same] at heeds
      exact heeds response rfl
    · intro heeds response same
      exact heeds response _ (Prod.ext same rfl)
  constructor
  · intro heeds method body machine' after ends
    exact (asked method body machine' after).1 (heeds _ _ ends)
  · intro heeds outcome after ends
    cases outcome with
    | value found machine' => exact (asked found.1 found.2 machine' after).2 (heeds _ _ _ _ ends)
    | thrown reason machine' => exact Host.heeds_done clock _ _
    | stopped reason machine' => exact Host.heeds_done clock _ _

theorem heeds_requestWith (clock : Clock) (url : Execution String) (machine : Machine) (host : Host)
    (alive : Alive options) :
    Host.Heeds clock (requestWith (some url) options build machine) host ↔
      (host.Serves → Host.interruption clock (url machine) host = none ∧
        ∀ text machine' after, Host.Passes clock (url machine) host (.value text machine') after →
          Host.Heeds clock (addressed options build text machine') after) := by
  have spelling : Host.Heeds clock ((quietly url >>= spelled options build) machine) host ↔
      Host.interruption clock (url machine) host = none ∧
      ∀ text machine' after, Host.Passes clock (url machine) host (.value text machine') after →
        Host.Heeds clock (addressed options build text machine') after := by
    rw [quietly_bind, Host.heeds_bind_of_alive_iff clock _ _ host
      (not_halted_hush machine _ (alive_spelled options build alive))]
    refine and_congr_right fun _ => ⟨fun heeds text machine' after => heeds (.value text machine') after, ?_⟩
    intro heeds outcome after ends
    cases outcome with
    | value text machine' => exact heeds text machine' after ends
    | thrown reason machine' => exact Host.heeds_done clock _ _
    | stopped reason machine' => cases reason <;> exact Host.heeds_done clock _ _
  refine (Host.heeds_ask clock .bound _ host rfl).trans ?_
  show Host.Heeds clock ((if !host.bound then _ else _ : Execution Value) machine) host ↔ _
  rw [Host.Serves]
  cases host.bound with
  | false => exact iff_of_true (Host.heeds_done clock _ _) nofun
  | true =>
    refine (Host.heeds_ask clock .callback _ host rfl).trans ?_
    show Host.Heeds clock ((if !host.callback.isSome then _ else _ : Execution Value) machine) host ↔ _
    cases host.callback.isSome with
    | false => exact iff_of_true (Host.heeds_done clock _ _) nofun
    | true => exact spelling.trans ⟨fun heeds _ => heeds, fun heeds => heeds ⟨rfl, rfl⟩⟩

theorem heeds_requestWith_none (clock : Clock) (machine : Machine) (host : Host) :
    Host.Heeds clock (requestWith none options build machine) host := by
  refine (Host.heeds_ask clock .bound _ host rfl).2 ?_
  show Host.Heeds clock ((if !host.bound then _ else _ : Execution Value) machine) host
  cases host.bound with
  | false => exact Host.heeds_done clock _ _
  | true =>
    refine (Host.heeds_ask clock .callback _ host rfl).2 ?_
    show Host.Heeds clock ((if !host.callback.isSome then _ else _ : Execution Value) machine) host
    cases host.callback.isSome <;> exact Host.heeds_done clock _ _

end

end ScriptSandbox
