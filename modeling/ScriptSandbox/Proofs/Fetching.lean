import ScriptSandbox.Proofs.Refusal
import ScriptSandbox.Proofs.Response
import ScriptSandbox.Proofs.Steps

/-!
What a call of `fetch` does, step by step. Each step may run code of the script, which may print and fetch by
itself: the address is written as a text, then the options are read, and only then the callback is called. The
main statement lists all ways that a call can take, each with everything that the host does on it, in order: on
one of them the callback answers, on one it refuses, and on all others it is not called.
-/

namespace ScriptSandbox

open Script Script.Execution

def World.withError (world : World) (cls : ErrorClass) (message : String) : World :=
  ⟨world.machine.withError cls (Units.ofString message), world.host⟩

def World.asked (world : World) (clock : Clock) (request : HttpRequest) : World :=
  ⟨world.machine, (world.host.reply clock (.request request)).2⟩

theorem runs_throwNew (clock : Clock) (cls : ErrorClass) (message : String) (before : World) :
    Runs clock (throwNew cls message : Execution α) before (.thrown (.object before.machine.heap.size))
      (before.withError cls message) [] := ⟨rfl, rfl⟩

/-! ### Options -/

/-- How the options of a request are read: first the method, then the body. Only an object has any. -/
inductive ReadsOptions (clock : Clock) [Surface] :
    Option Value → World → Ending (String × Option String) → World → List Host.Effect → Prop
  | absent (given : Option Value) (before : World) (other : ∀ ref, given ≠ some (.object ref)) :
    ReadsOptions clock given before (.value ("GET", none)) before []
  | badMethod (ref : Ref) (before after : World) (fault : Fault) (effects : List Host.Effect)
    (reads : Reads clock (.object ref) (.ofString "method") before fault.ending after effects) :
    ReadsOptions clock (some (.object ref)) before fault.ending after effects
  | badBody (ref : Ref) (before between after : World) (method : Option String) (fault : Fault)
    (effects effects' : List Host.Effect)
    (reads : Reads clock (.object ref) (.ofString "method") before (.value method) between effects)
    (reads' : Reads clock (.object ref) (.ofString "body") between fault.ending after effects') :
    ReadsOptions clock (some (.object ref)) before fault.ending after (effects ++ effects')
  | given (ref : Ref) (before between after : World) (method body : Option String)
    (effects effects' : List Host.Effect)
    (reads : Reads clock (.object ref) (.ofString "method") before (.value method) between effects)
    (reads' : Reads clock (.object ref) (.ofString "body") between (.value body) after effects') :
    ReadsOptions clock (some (.object ref)) before (.value (method.getD "GET", body)) after (effects ++ effects')

section

variable [Surface] (clock : Clock)

theorem exists_readsOptions (given : Option Value) (before : World) :
    ∃ ending after effects, ReadsOptions clock given before ending after effects := by
  by_cases object : ∃ ref, given = some (.object ref)
  · obtain ⟨ref, rfl⟩ := object
    obtain ⟨ending, between, effects, reads⟩ := exists_reads clock (.object ref) (.ofString "method") before
    obtain ⟨method, rfl⟩ | ⟨fault, rfl⟩ := ending.value_or_fault
    · obtain ⟨ending, after, effects', reads'⟩ := exists_reads clock (.object ref) (.ofString "body") between
      obtain ⟨body, rfl⟩ | ⟨fault, rfl⟩ := ending.value_or_fault
      · exact ⟨_, _, _, .given ref before between after method body effects effects' reads reads'⟩
      · exact ⟨_, _, _, .badBody ref before between after method fault effects effects' reads reads'⟩
    · exact ⟨_, _, _, .badMethod ref before between fault effects reads⟩
  · exact ⟨_, _, _, .absent given before fun ref same => object ⟨ref, same⟩⟩

theorem requestOptions_of_absent (given : Option Value) (other : ∀ ref, given ≠ some (.object ref)) :
    Primitives.requestOptions given = pure ("GET", none) := by
  cases given with
  | none => rfl
  | some value =>
    cases value with
    | object ref => exact absurd rfl (other ref)
    | _ => rfl

theorem requestOptions_object (ref : Ref) : Primitives.requestOptions (some (.object ref)) =
    (propertyText (.object ref) (.ofString "method") >>= fun method =>
      propertyText (.object ref) (.ofString "body") >>= fun body => pure (method.getD "GET", body)) := rfl

theorem ReadsOptions.runs (given : Option Value) (before after : World) (ending : Ending (String × Option String))
    (effects : List Host.Effect) (reads : ReadsOptions clock given before ending after effects) :
    Runs clock (Primitives.requestOptions given) before ending after effects := by
  cases reads with
  | absent _ _ other =>
    rw [requestOptions_of_absent given other]
    exact runs_pure clock _ before
  | badMethod ref _ _ fault _ reads =>
    rw [requestOptions_object]
    exact runs_bind_fault clock _ _ before after fault effects (reads.runs clock)
  | badBody ref _ between _ method fault effects effects' reads reads' =>
    rw [requestOptions_object]
    refine runs_bind clock _ _ before between after method _ effects effects' (reads.runs clock) ?_
    exact runs_bind_fault clock _ _ between after fault effects' (reads'.runs clock)
  | given ref _ between _ method body effects effects' reads reads' =>
    rw [requestOptions_object]
    refine runs_bind clock _ _ before between after method _ effects effects' (reads.runs clock) ?_
    exact runs_bind_pure clock _ _ between after body _ effects' (reads'.runs clock) rfl

end

/-! ### Requests -/

/-- A call gets as far as its request: the address is written, and the options are read after it. -/
inductive Arrives (clock : Clock) [Surface] (url : Value) (rest : List Value) (before ready : World)
    (request : HttpRequest) : List Host.Effect → Prop
  | ready (between : World) (content : Units) (effects effects' : List Host.Effect)
    (written : Runs clock (Surface.toUnits url) before (.value content) between effects)
    (decoded : request.url = content.toText)
    (reads : ReadsOptions clock rest.head? between (.value (request.method, request.body)) ready effects')
    (bare : request.headers = []) : Arrives clock url rest before ready request (effects ++ effects')

/-- All ways that a call of `fetch` can take during an evaluation, with what the host does on them. -/
inductive Fetches (methods : Array Method) (clock : Clock) [Engine] (before : World) :
    List Value → Ending Value → World → List Host.Effect → Prop
  /-- Without a callback there are no requests. -/
  | disabled (arguments : List Value) (off : before.host.callback = none) :
    Fetches methods clock before arguments (.thrown (.object before.machine.heap.size))
      (before.withError .error "fetch() is not enabled - HTTP callback not configured") []
  | missing (callback : HttpCallback) (on : before.host.callback = some callback) :
    Fetches methods clock before [] (.thrown (.object before.machine.heap.size))
      (before.withError .typeError "fetch() requires at least 1 argument (url)") []
  /-- Why an address cannot be written does not matter. -/
  | unwritten (callback : HttpCallback) (url : Value) (rest : List Value) (between : World) (fault : Fault)
    (effects : List Host.Effect) (on : before.host.callback = some callback)
    (fails : Runs clock (@Surface.toUnits .ofEngine url) before fault.ending between effects)
    (goesOn : fault ≠ .stopped .exhausted) :
    Fetches methods clock before (url :: rest) (.thrown (.object between.machine.heap.size))
      ((before.rewound between).withError .typeError "fetch() url must be a string") effects
  /-- The interpreter has no steps left. -/
  | exhausted (callback : HttpCallback) (url : Value) (rest : List Value) (between : World)
    (effects : List Host.Effect) (on : before.host.callback = some callback)
    (fails : Runs clock (@Surface.toUnits .ofEngine url) before (.stopped .exhausted) between effects) :
    Fetches methods clock before (url :: rest) (.stopped .exhausted) (before.rewound between) effects
  /-- What goes wrong with the options is passed on. -/
  | unread (callback : HttpCallback) (url : Value) (rest : List Value) (between after : World) (address : Units)
    (fault : Fault) (effects effects' : List Host.Effect) (on : before.host.callback = some callback)
    (written : Runs clock (@Surface.toUnits .ofEngine url) before (.value address) between effects)
    (reads : @ReadsOptions clock .ofEngine rest.head? between fault.ending after effects') :
    Fetches methods clock before (url :: rest) fault.ending after (effects ++ effects')
  | refused (callback : HttpCallback) (url : Value) (rest : List Value) (ready : World) (request : HttpRequest)
    (reports : List String) (effects : List Host.Effect) (on : before.host.callback = some callback)
    (arrives : @Arrives clock .ofEngine url rest before ready request effects)
    (answers : callback.answer ready.host.answers request = .error reports) :
    Fetches methods clock before (url :: rest) (.thrown (.object ready.machine.heap.size))
      ((ready.asked clock request).withError .error ("fetch() failed: " ++ ": ".intercalate reports))
      (effects ++ [.called callback ready.host.answers request])
  /-- With the prototypes as they were, the answer becomes a new object. -/
  | answered (callback : HttpCallback) (url : Value) (rest : List Value) (ready : World) (request : HttpRequest)
    (response : HttpResponse) (machine : Machine) (effects : List Host.Effect)
    (on : before.host.callback = some callback)
    (arrives : @Arrives clock .ofEngine url rest before ready request effects)
    (answers : callback.answer ready.host.answers request = .ok response)
    (untouched : Untouched methods ready.machine.heap)
    (built : Runs clock (Primitives.responseObject response) (ready.asked clock request)
      (.value (.object ready.machine.heap.size)) { ready.asked clock request with machine } [])
    (kept : ∀ ref < ready.machine.heap.size, machine.heap[ref]? = ready.machine.heap[ref]?)
    (mirrors : (HostValue.map (Primitives.responseEntries response)).Mirrors machine.heap
      (.object ready.machine.heap.size)) :
    Fetches methods clock before (url :: rest) (.value (.object ready.machine.heap.size))
      { ready.asked clock request with machine } (effects ++ [.called callback ready.host.answers request])
  /-- Otherwise setters of the script see the properties of the answer. -/
  | meddled (callback : HttpCallback) (url : Value) (rest : List Value) (ready after : World) (request : HttpRequest)
    (response : HttpResponse) (ending : Ending Value) (effects effects' : List Host.Effect)
    (on : before.host.callback = some callback)
    (arrives : @Arrives clock .ofEngine url rest before ready request effects)
    (answers : callback.answer ready.host.answers request = .ok response)
    (touched : ¬ Untouched methods ready.machine.heap)
    (built : Runs clock (Primitives.responseObject response) (ready.asked clock request) ending after effects') :
    Fetches methods clock before (url :: rest) ending after
      (effects ++ ([.called callback ready.host.answers request] ++ effects'))

section

variable (clock : Clock)

theorem Runs.callback (part : Execution α) (before after : World) (ending : Ending α) (effects : List Host.Effect)
    (runs : Runs clock part before ending after effects) : after.host.callback = before.host.callback := by
  have same := Host.converse_callback clock (part before.machine) before.host
  rwa [runs.ends] at same

theorem Arrives.callback [Surface] (url : Value) (rest : List Value) (before ready : World) (request : HttpRequest)
    (effects : List Host.Effect) (arrives : Arrives clock url rest before ready request effects) :
    ready.host.callback = before.host.callback := by
  cases arrives with
  | ready between content effects effects' written decoded reads bare =>
    exact ((reads.runs clock).callback clock).trans (written.callback clock)

theorem runs_request (callback : HttpCallback) (request : HttpRequest) (ready : World)
    (on : ready.host.callback = some callback) :
    Runs clock (ask (.request request)) ready (.value (callback.answer ready.host.answers request))
      (ready.asked clock request) [.called callback ready.host.answers request] := by
  have asked := runs_ask clock (.request request) ready
  have answer : (ready.host.reply clock (.request request)).1 = callback.answer ready.host.answers request := by
    simp only [Host.reply, on]
  have effect : ready.host.effect (.request request) = [.called callback ready.host.answers request] := by
    simp only [Host.effect, on]
  rw [answer, effect] at asked
  exact asked

section

open Primitives

variable (options : Execution (String × Option String)) (build : HttpResponse → Execution Value)

def attended : Option (Execution String) → Execution Value
  | none => throwType "fetch() requires at least 1 argument (url)"
  | some url => quietly url >>= spelled options build

theorem runs_requestWith_off (url : Option (Execution String)) (before : World) (bound : before.host.bound = true)
    (off : before.host.callback = none) :
    Runs clock (requestWith url options build) before (.thrown (.object before.machine.heap.size))
      (before.withError .error "fetch() is not enabled - HTTP callback not configured") [] := by
  have asked : (before.host.reply clock .bound).1 = true := bound
  have none_ : (before.host.reply clock .callback).1 = false := congrArg Option.isSome off
  refine runs_then clock _ _ _ before before _ _ _ [] [] (runs_ask clock .bound before)
    (if_neg (by rw [asked]; decide)) ?_
  refine runs_then clock _ _ _ before before _ _ _ [] [] (runs_ask clock .callback before)
    (if_pos (by rw [none_]; decide)) ?_
  exact runs_throwNew clock _ _ before

theorem runs_requestWith_on (url : Option (Execution String)) (callback : HttpCallback) (before after : World)
    (ending : Ending Value) (effects : List Host.Effect) (bound : before.host.bound = true)
    (on : before.host.callback = some callback)
    (runs : Runs clock (attended options build url) before ending after effects) :
    Runs clock (requestWith url options build) before ending after effects := by
  have asked : (before.host.reply clock .bound).1 = true := bound
  have some_ : (before.host.reply clock .callback).1 = true := congrArg Option.isSome on
  refine runs_then clock _ _ _ before before _ _ _ [] effects (runs_ask clock .bound before)
    (if_neg (by rw [asked]; decide)) ?_
  refine runs_then clock _ _ _ before before _ _ _ [] effects (runs_ask clock .callback before)
    (if_neg (by rw [some_]; decide)) ?_
  cases url <;> exact runs

theorem Arrives.asks [Surface] (url : Value) (rest : List Value) (before ready after : World) (request : HttpRequest)
    (callback : HttpCallback) (ending : Ending Value) (effects effects' : List Host.Effect)
    (on : before.host.callback = some callback) (arrives : Arrives clock url rest before ready request effects)
    (goesOn : Runs clock (answered build (callback.answer ready.host.answers request)) (ready.asked clock request)
      ending after effects') :
    Runs clock (attended (requestOptions rest.head?) build (some (coercedText url))) before ending after
      (effects ++ ([.called callback ready.host.answers request] ++ effects')) := by
  have on' := (arrives.callback clock).trans on
  obtain ⟨method, address, body, headers⟩ := request
  cases arrives with
  | ready between content effects effects'' written decoded reads bare =>
    subst bare decoded
    rw [List.append_assoc]
    refine runs_bind clock _ _ before between after _ _ effects _
      (runs_quietly_value clock _ _ _ _ _ (written.decoded clock url)) ?_
    refine runs_bind clock _ _ between ready after _ _ effects'' _ (reads.runs clock) ?_
    exact runs_bind clock _ _ ready _ after _ _ _ effects' (runs_request clock callback _ ready on') goesOn

end

theorem exists_fetches [Engine] (methods : Array Method) (arguments : List Value) (before : World) :
    ∃ ending after effects, Fetches methods clock before arguments ending after effects := by
  let : Surface := .ofEngine
  cases on : before.host.callback with
  | none => exact ⟨_, _, _, .disabled arguments on⟩
  | some callback =>
    cases arguments with
    | nil => exact ⟨_, _, _, .missing callback on⟩
    | cons url rest =>
      obtain ⟨ending, between, effects, written⟩ := exists_runs clock (Surface.toUnits url) before
      obtain ⟨content, rfl⟩ | ⟨fault, rfl⟩ := ending.value_or_fault
      · obtain ⟨ending, ready, effects', reads⟩ := exists_readsOptions clock rest.head? between
        obtain ⟨⟨method, body⟩, rfl⟩ | ⟨fault, rfl⟩ := ending.value_or_fault
        · have arrives : Arrives clock url rest before ready { method, url := content.toText, body, headers := [] } _ :=
            .ready between content effects effects' written rfl reads rfl
          cases answers : callback.answer ready.host.answers { method, url := content.toText, body, headers := [] } with
          | error reports => exact ⟨_, _, _, .refused callback url rest ready _ reports _ on arrives answers⟩
          | ok response =>
            by_cases untouched : Untouched methods ready.machine.heap
            · obtain ⟨machine, ended, kept, mirrors⟩ :=
                Primitives.responseObject_mirrors methods response ready.machine untouched
              have built := runs_done clock (Primitives.responseObject response)
                (ready.asked clock { method, url := content.toText, body, headers := [] }) _ machine ended
              exact ⟨_, _, _, .answered callback url rest ready _ response machine _ on arrives answers untouched
                built kept mirrors⟩
            · obtain ⟨ending, after, effects'', built⟩ := exists_runs clock (Primitives.responseObject response)
                (ready.asked clock { method, url := content.toText, body, headers := [] })
              exact ⟨_, _, _, .meddled callback url rest ready after _ response ending _ effects'' on arrives answers
                untouched built⟩
        · exact ⟨_, _, _, .unread callback url rest between ready content fault effects effects' on written reads⟩
      · by_cases goesOn : fault = .stopped .exhausted
        · subst goesOn
          exact ⟨_, _, _, .exhausted callback url rest between effects on written⟩
        · exact ⟨_, _, _, .unwritten callback url rest between fault effects on written goesOn⟩

theorem Fetches.runs [Engine] (methods : Array Method) (arguments : List Value) (before after : World)
    (ending : Ending Value) (effects : List Host.Effect) (bound : before.host.bound = true)
    (fetches : Fetches methods clock before arguments ending after effects) :
    Runs clock (Primitives.request arguments) before ending after effects := by
  let : Surface := .ofEngine
  unfold Primitives.request
  cases fetches with
  | disabled arguments off => exact runs_requestWith_off clock _ _ _ before bound off
  | missing callback on =>
    exact runs_requestWith_on clock _ _ _ callback before _ _ _ bound on (runs_throwNew clock _ _ before)
  | unwritten callback url rest between fault effects on fails goesOn =>
    refine runs_requestWith_on clock _ _ _ callback before _ _ _ bound on ?_
    rw [← List.append_nil effects]
    have failed := fails.decoded clock url
    rw [Ending.map_fault] at failed
    exact runs_bind clock _ _ before _ _ _ _ effects [] (runs_quietly_fault clock _ _ _ fault _ goesOn failed)
      (runs_throwNew clock _ _ _)
  | exhausted callback url rest between effects on fails =>
    refine runs_requestWith_on clock _ _ _ callback before _ _ _ bound on ?_
    exact runs_bind_fault clock _ _ before _ (.stopped .exhausted) effects
      (runs_quietly_exhausted clock _ _ _ effects (fails.decoded clock url))
  | unread callback url rest between after address fault effects effects' on written reads =>
    refine runs_requestWith_on clock _ _ _ callback before _ _ _ bound on ?_
    refine runs_bind clock _ _ before between after _ _ effects _
      (runs_quietly_value clock _ _ _ _ _ (written.decoded clock url)) ?_
    exact runs_bind_fault clock _ _ between after fault effects' (reads.runs clock)
  | refused callback url rest ready request reports effects on arrives answers =>
    refine runs_requestWith_on clock _ _ _ callback before _ _ _ bound on ?_
    refine arrives.asks clock _ url rest before ready _ request callback _ effects [] on ?_
    rw [answers]
    exact runs_throwNew clock _ _ _
  | answered callback url rest ready request response machine effects on arrives answers untouched built =>
    refine runs_requestWith_on clock _ _ _ callback before _ _ _ bound on ?_
    refine arrives.asks clock _ url rest before ready _ request callback _ effects [] on ?_
    rw [answers]
    exact built
  | meddled callback url rest ready after request response ending effects effects' on arrives answers touched built =>
    refine runs_requestWith_on clock _ _ _ callback before _ _ _ bound on ?_
    refine arrives.asks clock _ url rest before ready _ request callback _ effects effects' on ?_
    rw [answers]
    exact built

theorem object_of_responseObject [Engine] (response : HttpResponse) (before after : World) (value : Value)
    (effects : List Host.Effect)
    (built : Runs clock (Primitives.responseObject response) before (.value value) after effects) :
    ∃ ref, value = .object ref := by
  unfold Primitives.responseObject at built
  obtain ⟨ref, _, _, _, -, rest, -⟩ := built.of_bind
  obtain ⟨_, _, _, _, -, rest, -⟩ := rest.of_bind
  obtain ⟨_, _, _, _, -, rest, -⟩ := rest.of_bind
  obtain ⟨_, _, _, _, -, rest, -⟩ := rest.of_bind
  obtain ⟨_, _, _, _, -, rest, -⟩ := rest.of_bind
  obtain ⟨_, _, _, _, -, rest, -⟩ := rest.of_bind
  obtain ⟨_, last, _, _, -, rest, -⟩ := rest.of_bind
  exact ⟨ref, (Ending.value.inj (rest.unique clock _ last after last _ _ _ _ (runs_pure clock _ last)).1)⟩

theorem Fetches.object [Engine] (methods : Array Method) (arguments : List Value) (before after : World)
    (value : Value) (effects : List Host.Effect)
    (fetches : Fetches methods clock before arguments (.value value) after effects) : ∃ ref, value = .object ref := by
  generalize same : Ending.value value = ending at fetches
  cases fetches with
  | unread _ _ _ _ _ _ fault => exact absurd same.symm (Ending.fault_ne_value fault value)
  | answered _ _ _ ready => exact ⟨_, Ending.value.inj same⟩
  | meddled callback url rest ready after request response ending effects effects' on arrives answers touched built =>
    subst same
    exact object_of_responseObject clock response _ after value effects' built
  | _ => cases same

/-- A call of `fetch` during an evaluation takes one of the ways above. So the address is written first, the method is
read and written after it, and the body last; each may run any code of the script. If there is no callback, or no
argument, none of this happens; if any of it fails, the callback is not called, and otherwise it is called once, after
everything that was done before, with what was written. -/
theorem fetch_calls_callback_last [Engine] (methods : Array Method) (call : Call) (before : World)
    (bound : before.host.bound = true) : ∃ ending after effects,
    Runs clock (Primitives.nativeFetch.run call) before ending after effects ∧
      Fetches methods clock before call.arguments.toList ending after effects := by
  obtain ⟨ending, after, effects, fetches⟩ := exists_fetches clock methods call.arguments.toList before
  exact ⟨ending, after, effects, fetches.runs clock methods _ before after ending effects bound, fetches⟩

end

def pickyCallback : HttpCallback where
  records := true
  answer _ request :=
    if request.method = "PUT" then .ok { HttpResponse.empty with body := request.body }
    else .error ["refused", "by the host"]

def pickyWorld : World :=
  ⟨{ (default : Machine) with
      heap := Marshal.smallHeap.push { bareObject with
        properties := (Properties.empty.insert (.ofString "body") (.plain (.integer 7))).insert (.ofString "method")
          (.plain (.text (Units.ofString "PUT"))) } },
    { narrowWorld.host with callback := some pickyCallback }⟩

def puttingCall : Call :=
  { this := .undefined, arguments := #[.integer 5, .object Marshal.smallHeap.size], newTarget := .undefined
    callee := 0, data := #[] }

example :
    (Host.converse Sandbox.stillClock
        (@Primitives.nativeFetch.run (engine Marshal.smallMethods 1) puttingCall pickyWorld.machine)
        pickyWorld.host).2.requests =
      #[{ method := "PUT", url := "5", body := some "7", headers := [] }] := by
  decide +kernel

theorem fetch_of_puttingCall :
    pickyWorld.host.bound = true ∧ ∃ ending after effects,
      Runs Sandbox.stillClock (@Primitives.nativeFetch.run (engine Marshal.smallMethods 1) puttingCall) pickyWorld
          ending after effects ∧
        @Fetches Marshal.smallMethods Sandbox.stillClock (engine Marshal.smallMethods 1) pickyWorld
          puttingCall.arguments.toList ending after effects :=
  ⟨rfl, @fetch_calls_callback_last Sandbox.stillClock (engine Marshal.smallMethods 1) Marshal.smallMethods puttingCall
    pickyWorld rfl⟩

end ScriptSandbox
