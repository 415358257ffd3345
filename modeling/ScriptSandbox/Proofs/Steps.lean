import ScriptSandbox.Proofs.Absorption
import ScriptSandbox.Proofs.Effects
import ScriptSandbox.Proofs.World

/-!
Steps of a computation that somebody from outside can tell apart: each starts in one world, ends in some way
in another, and makes the host do things on the way. The rules for the constructs of a computation put such
steps together, the effects in order. A part whose failure is kept quiet tells a result or nothing; as long
as its code is docile, that is, stops only once it has been asked to, nothing means that it threw or was asked.
-/

namespace ScriptSandbox

open Script Script.Execution

def World.rewound (before after : World) : World :=
  { after with machine := { after.machine with depth := before.machine.depth, waiting := before.machine.waiting } }

def narrowWorld : World := ⟨default, { Host.create (.empty 4) 0 with bound := true }⟩

/-- A computation takes one world to another, ends in some way, and makes the host do things, in order. -/
structure Runs (clock : Clock) (part : Execution α) (before : World) (ending : Ending α) (after : World)
    (effects : List Host.Effect) : Prop where
  ends : Host.converse clock (part before.machine) before.host = (ending.outcome after.machine, after.host)
  does : Host.effects clock (part before.machine) before.host = effects

section

variable (clock : Clock)

theorem exists_runs (part : Execution α) (before : World) :
    ∃ ending after effects, Runs clock part before ending after effects := by
  rcases ended : Host.converse clock (part before.machine) before.host with ⟨outcome, host⟩
  cases outcome with
  | value result machine => exact ⟨.value result, ⟨machine, host⟩, _, ended, rfl⟩
  | thrown reason machine => exact ⟨.thrown reason, ⟨machine, host⟩, _, ended, rfl⟩
  | stopped reason machine => exact ⟨.stopped reason, ⟨machine, host⟩, _, ended, rfl⟩

/-- There is only one way in which a computation runs. -/
theorem Runs.unique (part : Execution α) (before after other : World) (ending ending' : Ending α)
    (effects effects' : List Host.Effect) (runs : Runs clock part before ending after effects)
    (runs' : Runs clock part before ending' other effects') :
    ending = ending' ∧ after = other ∧ effects = effects' := by
  have same := runs.ends.symm.trans runs'.ends
  obtain ⟨endings, machines⟩ := Ending.outcome_inj ending ending' _ _ (congrArg Prod.fst same)
  have hosts := congrArg Prod.snd same
  obtain ⟨machine, host⟩ := after
  obtain ⟨machine', host'⟩ := other
  cases machines
  cases hosts
  exact ⟨endings, rfl, runs.does.symm.trans runs'.does⟩

theorem Runs.bound (part : Execution α) (before after : World) (ending : Ending α) (effects : List Host.Effect)
    (runs : Runs clock part before ending after effects) : after.host.bound = before.host.bound := by
  have same := Host.converse_bound clock (part before.machine) before.host
  rwa [runs.ends] at same

theorem runs_pure (result : α) (before : World) : Runs clock (pure result) before (.value result) before [] :=
  ⟨rfl, rfl⟩

theorem runs_ask (question : Question) (before : World) :
    Runs clock (ask question) before (.value (before.host.reply clock question).1)
      { before with host := (before.host.reply clock question).2 } (before.host.effect question) :=
  ⟨rfl, List.append_nil _⟩

theorem runs_bind (first : Execution α) (next : α → Execution β) (before between after : World) (result : α)
    (ending : Ending β) (effects effects' : List Host.Effect)
    (started : Runs clock first before (.value result) between effects)
    (ended : Runs clock (next result) between ending after effects') :
    Runs clock (first >>= next) before ending after (effects ++ effects') := by
  constructor
  · rw [bind_eq, Host.converse_bind, started.ends]
    exact ended.ends
  · rw [bind_eq, Host.effects_bind, started.does, started.ends]
    exact congrArg (effects ++ ·) ended.does

theorem runs_bind_fault (first : Execution α) (next : α → Execution β) (before after : World) (fault : Fault)
    (effects : List Host.Effect) (failed : Runs clock first before fault.ending after effects) :
    Runs clock (first >>= next) before fault.ending after effects := by
  constructor
  · rw [bind_eq, Host.converse_bind, failed.ends]
    cases fault <;> rfl
  · rw [bind_eq, Host.effects_bind, failed.does, failed.ends]
    cases fault <;> exact List.append_nil effects

theorem Runs.of_bind (first : Execution α) (next : α → Execution β) (before after : World) (result : β)
    (effects : List Host.Effect) (runs : Runs clock (first >>= next) before (.value result) after effects) :
    ∃ found between earlier later, Runs clock first before (.value found) between earlier ∧
      Runs clock (next found) between (.value result) after later ∧ earlier ++ later = effects := by
  obtain ⟨ending, between, earlier, started⟩ := exists_runs clock first before
  obtain ⟨found, rfl⟩ | ⟨fault, rfl⟩ := ending.value_or_fault
  · obtain ⟨ending, last, later, ended⟩ := exists_runs clock (next found) between
    have whole := runs_bind clock first next before between last found ending earlier later started ended
    obtain ⟨rfl, rfl, same⟩ := whole.unique clock _ before last after ending _ _ _ runs
    exact ⟨found, between, earlier, later, started, ended, same⟩
  · have failed := runs_bind_fault clock first next before between fault earlier started
    exact absurd (failed.unique clock _ before between after _ _ _ _ runs).1 (Ending.fault_ne_value fault result)

theorem runs_then (first : Execution α) (next : α → Execution β) (later : Execution β) (before between after : World)
    (result : α) (ending : Ending β) (effects effects' : List Host.Effect)
    (started : Runs clock first before (.value result) between effects) (same : next result = later)
    (ended : Runs clock later between ending after effects') :
    Runs clock (first >>= next) before ending after (effects ++ effects') := by
  rw [← same] at ended
  exact runs_bind clock first next before between after result ending effects effects' started ended

theorem runs_bind_pure (first : Execution α) (next : α → Execution β) (before after : World) (result : α) (named : β)
    (effects : List Host.Effect) (started : Runs clock first before (.value result) after effects)
    (same : next result = pure named) : Runs clock (first >>= next) before (.value named) after effects := by
  have both := runs_then clock first next _ before after after result _ effects [] started same
    (runs_pure clock named after)
  rwa [List.append_nil] at both

theorem runs_map (first : Execution α) (change : α → β) (before after : World) (ending : Ending α)
    (effects : List Host.Effect) (ended : Runs clock first before ending after effects) :
    Runs clock (first >>= fun result => pure (change result)) before (ending.map change) after effects := by
  obtain ⟨result, rfl⟩ | ⟨fault, rfl⟩ := ending.value_or_fault
  · exact runs_bind_pure clock first _ before after result _ effects ended rfl
  · rw [Ending.map_fault]
    exact runs_bind_fault clock first _ before after fault effects ended

theorem runs_attempt_value (part : Execution α) (before after : World) (result : α) (effects : List Host.Effect)
    (runs : Runs clock part before (.value result) after effects) :
    Runs clock (attempt part) before (.value (.value result)) after effects := by
  constructor
  · rw [attempt, Host.converse_bind, runs.ends]
    rfl
  · rw [attempt, Host.effects_bind, runs.does, runs.ends]
    exact List.append_nil effects

theorem runs_attempt_fault (part : Execution α) (before after : World) (fault : Fault) (effects : List Host.Effect)
    (runs : Runs clock part before fault.ending after effects) :
    Runs clock (attempt part) before (.value fault.ending) (before.rewound after) effects := by
  constructor
  · rw [attempt, Host.converse_bind, runs.ends]
    cases fault <;> rfl
  · rw [attempt, Host.effects_bind, runs.does, runs.ends]
    cases fault <;> exact List.append_nil effects

theorem runs_done (part : Execution α) (before : World) (result : α) (machine : Machine)
    (ended : part before.machine = .done (.value result machine)) :
    Runs clock part before (.value result) ⟨machine, before.host⟩ [] := by
  constructor <;> rw [ended] <;> rfl

/-! ### Quiet failures -/

theorem runs_quietly_value (part : Execution α) (before after : World) (result : α) (effects : List Host.Effect)
    (runs : Runs clock part before (.value result) after effects) :
    Runs clock (quietly part) before (.value (some result)) after effects := by
  unfold quietly
  exact runs_bind_pure clock (attempt part) _ before after _ _ effects
    (runs_attempt_value clock part before after result effects runs) rfl

theorem runs_quietly_fault (part : Execution α) (before after : World) (fault : Fault) (effects : List Host.Effect)
    (goesOn : fault ≠ .stopped .exhausted) (runs : Runs clock part before fault.ending after effects) :
    Runs clock (quietly part) before (.value none) (before.rewound after) effects := by
  have attempted := runs_attempt_fault clock part before after fault effects runs
  unfold quietly
  refine runs_bind_pure clock (attempt part) _ before _ _ _ effects attempted ?_
  cases fault with
  | thrown reason => rfl
  | stopped reason =>
    cases reason with
    | interrupted => rfl
    | exhausted => exact absurd rfl goesOn

theorem runs_quietly_exhausted (part : Execution α) (before after : World) (effects : List Host.Effect)
    (runs : Runs clock part before (.stopped .exhausted) after effects) :
    Runs clock (quietly part) before (.stopped .exhausted) (before.rewound after) effects := by
  have attempted := runs_attempt_fault clock part before after (.stopped .exhausted) effects runs
  have stops : Runs clock (stop .exhausted : Execution (Option α)) (before.rewound after) (.stopped .exhausted)
      (before.rewound after) [] := ⟨rfl, rfl⟩
  unfold quietly
  rw [← List.append_nil effects]
  exact runs_then clock (attempt part) _ (stop .exhausted) before _ _ _ _ effects [] attempted rfl stops

end

/-! ### Docile code -/

/-- A computation that never runs out of steps, and is stopped only once the host has asked for that. The
flag tells whether it has. -/
inductive Dialogue.Docile : Bool → Dialogue (Outcome α) → Prop
  | value (told : Bool) (result : α) (machine : Machine) : Docile told (.done (.value result machine))
  | thrown (told : Bool) (reason : Value) (machine : Machine) : Docile told (.done (.thrown reason machine))
  | stopped (machine : Machine) : Docile true (.done (.stopped .interrupted machine))
  | asks (told : Bool) (question : Question) (next : question.Answer → Dialogue (Outcome α))
    (later : ∀ answer, Docile (told || question.stops answer) (next answer)) : Docile told (.ask question next)

theorem Dialogue.Docile.told (told : Bool) (dialogue : Dialogue (Outcome α)) (docile : dialogue.Docile false) :
    dialogue.Docile told := by
  generalize untold : false = before at docile
  have weaker : before = true → told = true := by
    rintro rfl
    cases untold
  clear untold
  induction docile generalizing told with
  | value before result machine => exact .value told result machine
  | thrown before reason machine => exact .thrown told reason machine
  | stopped machine =>
    rw [weaker rfl]
    exact .stopped machine
  | asks before question next _ ih =>
    refine .asks told question next fun answer => ih answer _ fun stops => ?_
    obtain known | now := Bool.or_eq_true_iff.1 stops
    · rw [weaker known, Bool.true_or]
    · rw [now, Bool.or_true]

/-- What comes after a docile part has to hand on a stop only if it was told so. -/
theorem Dialogue.Docile.bind (told : Bool) (first : Dialogue (Outcome α)) (next : Outcome α → Dialogue (Outcome β))
    (docile : first.Docile told)
    (later : ∀ told outcome, (Dialogue.done outcome).Docile told → (next outcome).Docile told) :
    (first.bind next).Docile told := by
  induction docile with
  | value told result machine => exact later told _ (.value told result machine)
  | thrown told reason machine => exact later told _ (.thrown told reason machine)
  | stopped machine => exact later true _ (.stopped machine)
  | asks told question rest _ ih => exact .asks told question _ ih

theorem Host.stopped_of_docile (clock : Clock) (told : Bool) (dialogue : Dialogue (Outcome α)) (host : Host)
    (reason : Stop) (machine : Machine) (docile : dialogue.Docile told)
    (ended : (converse clock dialogue host).1 = .stopped reason machine) :
    reason = .interrupted ∧ (told = true ∨ (interruption clock dialogue host).isSome = true) := by
  induction docile generalizing host with
  | value told result after => cases ended
  | thrown told reason after => cases ended
  | stopped after =>
    cases ended
    exact ⟨rfl, .inl rfl⟩
  | asks told question next _ ih =>
    obtain ⟨same, cause⟩ := ih (host.reply clock question).1 (host.reply clock question).2 ended
    refine ⟨same, ?_⟩
    rw [interruption_ask]
    by_cases stops : question.stops (host.reply clock question).1 = true
    · rw [if_pos stops]
      exact .inr rfl
    · rw [if_neg stops]
      rw [Bool.eq_false_iff.2 stops, Bool.or_false] at cause
      exact cause

namespace Script.Execution

def Docile (part : Execution α) : Prop := ∀ machine, (part machine).Docile false

theorem docile_pure (result : α) : Docile (pure result : Execution α) := fun machine => .value false result machine

theorem docile_throwValue (reason : Value) : Docile (throwValue reason : Execution α) :=
  fun machine => .thrown false reason machine

theorem docile_bind (first : Execution α) (next : α → Execution β) (docile : Docile first)
    (later : ∀ result, Docile (next result)) : Docile (first >>= next) := by
  intro machine
  rw [bind_eq]
  refine .bind false _ _ (docile machine) fun told outcome ended => ?_
  cases outcome with
  | value result machine => exact (later result machine).told told
  | thrown reason machine => exact .thrown told reason machine
  | stopped reason machine =>
    cases ended with
    | stopped => exact .stopped machine

theorem docile_ask (question : Question) : Docile (ask question) :=
  fun machine => .asks false question _ fun answer => .value _ answer machine

theorem docile_throwNew (cls : ErrorClass) (message : String) : Docile (throwNew cls message : Execution α) :=
  fun _ => .thrown false _ _

theorem docile_quietly_bind (part : Execution α) (next : Option α → Execution β) (docile : Docile part)
    (later : ∀ found, Docile (next found)) : Docile (quietly part >>= next) := by
  intro machine
  rw [quietly_bind]
  refine .bind false _ _ (docile machine) fun told outcome ended => ?_
  cases outcome with
  | value result machine => exact (later _ machine).told told
  | thrown reason machine => exact (later _ _).told told
  | stopped reason machine =>
    cases ended with
    | stopped => exact (later _ _).told true

end Script.Execution

namespace Primitives

open printWith

theorem docile_printItems (coerce : Value → Execution (Array UInt8)) (docile : ∀ value, Docile (coerce value))
    (values : List Value) (first : Bool) : Docile (printItems coerce values first) := by
  induction values generalizing first with
  | nil => exact docile_pure ()
  | cons value rest ih =>
    have written : Docile (quietly (coerce value) >>= offered coerce rest) := by
      refine docile_quietly_bind _ _ (docile value) fun found => ?_
      cases found with
      | some bytes => exact docile_bind _ _ (docile_ask _) fun _ => ih false
      | none => exact ih false
    rw [printItems_cons]
    cases first with
    | true => exact written
    | false => exact docile_bind _ _ (docile_ask _) fun _ => written

theorem docile_printWith (coerce : Value → Execution (Array UInt8)) (docile : ∀ value, Docile (coerce value))
    (values : List Value) : Docile (printWith coerce values) := by
  refine docile_bind _ _ (docile_ask .bound) fun bound => ?_
  cases bound with
  | false => exact docile_pure ()
  | true => exact docile_bind _ _ (docile_printItems coerce docile values true) fun _ => docile_ask _

theorem docile_requestWith (url : Option (Execution String)) (options : Execution (String × Option String))
    (build : HttpResponse → Execution Value) (docileUrl : ∀ part, url = some part → Docile part)
    (docileOptions : Docile options) (docileBuild : ∀ response, Docile (build response)) :
    Docile (requestWith url options build) := by
  refine docile_bind _ _ (docile_ask .bound) fun bound => ?_
  cases bound with
  | false => exact docile_throwNew _ _
  | true =>
    refine docile_bind _ _ (docile_ask .callback) fun callback => ?_
    cases callback with
    | false => exact docile_throwNew _ _
    | true =>
      cases url with
      | none => exact docile_throwNew _ _
      | some url =>
        refine docile_quietly_bind _ _ (docileUrl url rfl) fun address => ?_
        cases address with
        | none => exact docile_throwNew _ _
        | some text =>
          refine docile_bind _ _ docileOptions fun found => ?_
          refine docile_bind _ _ (docile_ask _) fun answer => ?_
          cases answer with
          | ok response => exact docileBuild response
          | error reports => exact docile_throwNew _ _

end Primitives

theorem Conduct.docile_run (conduct : Conduct α) : Docile conduct.run := by
  induction conduct with
  | returns result => exact docile_pure result
  | throws reason => exact docile_throwValue reason
  | works change next ih => exact fun machine => ih (change machine) (change machine)
  | polls next ih =>
    intro machine
    rw [run_polls_apply]
    refine .asks false .interrupt _ fun stops => ?_
    cases stops with
    | true => exact .stopped machine
    | false => exact ih machine
  | time next ih => exact docile_bind _ _ (docile_ask .time) ih
  | uptime next ih => exact docile_bind _ _ (docile_ask .uptime) ih
  | prints values coerce next ihCoerce ih =>
    exact docile_bind _ _ (Primitives.docile_printWith _ ihCoerce values) fun _ => ih
  | fetches given url options build next ihUrl ihOptions ihBuild ih =>
    have fetching : Docile (fetching given url options build) := by
      refine Primitives.docile_requestWith _ _ _ (fun part same => ?_) ihOptions ihBuild
      cases given with
      | true =>
        cases same
        exact ihUrl
      | false => cases same
    intro machine
    rw [run_fetches_apply]
    refine .bind false _ _ (fetching machine) fun told outcome ended => ?_
    cases outcome with
    | value response machine => exact (ih _ machine).told told
    | thrown reason machine => exact (ih _ _).told told
    | stopped reason machine =>
      cases ended with
      | stopped => exact .stopped _

/-! ### Parts whose failure is kept quiet -/

/-- A part whose failure is kept quiet tells its result, or nothing: because it threw, or because the host
asked it to stop. -/
inductive Tells (clock : Clock) (part : Execution α) (before : World) : Option α → World → List Host.Effect → Prop
  | result (result : α) (after : World) (effects : List Host.Effect)
    (runs : Runs clock part before (.value result) after effects) :
    Tells clock part before (some result) after effects
  | threw (reason : Value) (after : World) (effects : List Host.Effect)
    (runs : Runs clock part before (.thrown reason) after effects) :
    Tells clock part before none (before.rewound after) effects
  | interrupted (after : World) (effects : List Host.Effect)
    (runs : Runs clock part before (.stopped .interrupted) after effects)
    (asked : (Host.interruption clock (part before.machine) before.host).isSome = true) :
    Tells clock part before none (before.rewound after) effects

section

variable (clock : Clock)

theorem exists_tells (part : Execution α) (docile : Docile part) (before : World) :
    ∃ found after effects, Tells clock part before found after effects := by
  obtain ⟨ending, after, effects, runs⟩ := exists_runs clock part before
  cases ending with
  | value result => exact ⟨_, _, _, .result result after effects runs⟩
  | thrown reason => exact ⟨_, _, _, .threw reason after effects runs⟩
  | stopped reason =>
    obtain ⟨rfl, cause⟩ := Host.stopped_of_docile clock false _ before.host reason after.machine
      (docile before.machine) (congrArg Prod.fst runs.ends)
    exact ⟨_, _, _, .interrupted after effects runs (cause.resolve_left Bool.false_ne_true)⟩

theorem Tells.quietly (part : Execution α) (before after : World) (found : Option α) (effects : List Host.Effect)
    (tells : Tells clock part before found after effects) :
    Runs clock (quietly part) before (.value found) after effects := by
  cases tells with
  | result result _ _ runs => exact runs_quietly_value clock part before after result effects runs
  | threw reason after _ runs => exact runs_quietly_fault clock part before after (.thrown reason) effects nofun runs
  | interrupted after _ runs _ =>
    exact runs_quietly_fault clock part before after (.stopped .interrupted) effects nofun runs

theorem Tells.does (part : Execution α) (before after : World) (found : Option α) (effects : List Host.Effect)
    (tells : Tells clock part before found after effects) :
    Host.effects clock (part before.machine) before.host = effects := by
  cases tells with
  | result _ _ _ runs => exact runs.does
  | threw _ _ _ runs => exact runs.does
  | interrupted _ _ runs _ => exact runs.does

theorem Tells.map (part : Execution α) (change : α → β) (before after : World) (found : Option α)
    (effects : List Host.Effect) (tells : Tells clock part before found after effects) :
    Tells clock (part >>= fun result => pure (change result)) before (found.map change) after effects := by
  cases tells with
  | result result _ _ runs => exact .result (change result) after effects (runs_map clock part change _ _ _ _ runs)
  | threw reason after _ runs => exact .threw reason after effects (runs_map clock part change _ _ _ _ runs)
  | interrupted after _ runs asked =>
    refine .interrupted after effects (runs_map clock part change _ _ _ _ runs) ?_
    obtain ⟨⟨rest, host⟩, stopped⟩ := Option.isSome_iff_exists.1 asked
    rw [bind_eq, Host.interruption_bind_of_some clock _ _ _ host rest stopped]
    rfl

end

/-! ### Properties as texts -/

section

variable [Surface]

def propertyText (value : Value) (key : Key) : Execution (Option String) := do
  let found ← Surface.get value key
  if found.isNullish then return none else some <$> coercedText found

theorem textProperty_eq (ref : Ref) (key : Key) : ScriptException.textProperty ref key =
    (quietly (propertyText (.object ref) key) >>= fun found => pure found.join) := rfl

theorem Runs.decoded (clock : Clock) (value : Value) (before after : World) (ending : Ending Units)
    (effects : List Host.Effect) (written : Runs clock (Surface.toUnits value) before ending after effects) :
    Runs clock (coercedText value) before (ending.map Units.toText) after effects :=
  runs_map clock (Surface.toUnits value) Units.toText before after ending effects written

/-- How a property is read as a text: first the property, and then, unless it is `null` or `undefined`, it is written
and decoded. A failure of either ends it. -/
inductive Reads (clock : Clock) (value : Value) (key : Key) (before : World) :
    Ending (Option String) → World → List Host.Effect → Prop
  | unreadable (fault : Fault) (after : World) (effects : List Host.Effect)
    (read : Runs clock (Surface.get value key) before fault.ending after effects) :
    Reads clock value key before fault.ending after effects
  | absent (found : Value) (after : World) (effects : List Host.Effect)
    (read : Runs clock (Surface.get value key) before (.value found) after effects)
    (nullish : found.isNullish = true) : Reads clock value key before (.value none) after effects
  | present (found : Value) (between after : World) (ending : Ending Units) (effects effects' : List Host.Effect)
    (read : Runs clock (Surface.get value key) before (.value found) between effects)
    (there : found.isNullish = false) (written : Runs clock (Surface.toUnits found) between ending after effects') :
    Reads clock value key before (ending.map fun content => some content.toText) after (effects ++ effects')

variable (clock : Clock)

theorem exists_reads (value : Value) (key : Key) (before : World) :
    ∃ ending after effects, Reads clock value key before ending after effects := by
  obtain ⟨ending, between, effects, read⟩ := exists_runs clock (Surface.get value key) before
  obtain ⟨found, rfl⟩ | ⟨fault, rfl⟩ := ending.value_or_fault
  · cases nullish : found.isNullish with
    | true => exact ⟨_, _, _, .absent found between effects read nullish⟩
    | false =>
      obtain ⟨ending, after, effects', written⟩ := exists_runs clock (Surface.toUnits found) between
      exact ⟨_, _, _, .present found between after ending effects effects' read nullish written⟩
  · exact ⟨_, _, _, .unreadable fault between effects read⟩

theorem Reads.runs (value : Value) (key : Key) (before after : World) (ending : Ending (Option String))
    (effects : List Host.Effect) (reads : Reads clock value key before ending after effects) :
    Runs clock (propertyText value key) before ending after effects := by
  unfold propertyText
  cases reads with
  | unreadable fault _ _ read => exact runs_bind_fault clock _ _ before after fault effects read
  | absent found _ _ read nullish =>
    exact runs_bind_pure clock _ _ before after found none effects read (by rw [nullish]; rfl)
  | present found between _ ending effects effects' read there written =>
    have decoded := runs_map clock _ some between after _ effects' (written.decoded clock found)
    rw [Ending.map_map] at decoded
    refine runs_then clock _ _ _ before between after found _ effects effects' read ?_ decoded
    rw [there]
    rfl

theorem docile_propertyText (value : Value) (key : Key) (reads : Docile (Surface.get value key))
    (writes : ∀ found, Docile (Surface.toUnits found)) : Docile (propertyText value key) := by
  refine docile_bind _ _ reads fun found => ?_
  have coerced : Docile (coercedText found) := docile_bind _ _ (writes found) fun _ => docile_pure _
  cases found.isNullish with
  | true => exact docile_pure none
  | false => exact docile_bind _ _ coerced fun _ => docile_pure _

end

end ScriptSandbox
