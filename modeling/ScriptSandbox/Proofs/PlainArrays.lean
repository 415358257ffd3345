import Mathlib.Data.List.Range
import ScriptSandbox.Proofs.ArrayGraph
import ScriptSandbox.Proofs.RoundTrip
import ScriptSandbox.Proofs.Timeout

/-!
Which plain arrays convert. The walk and the engine's own texts together handle all of them but those that hide an
endless one below the walk's limit. The arrays one inside the other, with the last inside itself, show both sides: up
to as many as the walk goes down they convert, and one more makes the engine give up.
-/

namespace ScriptSandbox

open Script Script.Execution

namespace Marshal

namespace ArrayGraph

/-! ### Whole conversions -/

section

variable (clock : Clock) (graph : ArrayGraph) [Runtime] (kept : World → Prop) (held : graph.Held clock kept)
include held

theorem settles_fromScript (value : Value) (member : graph.Member value) (world : World) (good : kept world) :
    Settles kept (graph.Sinks value) fun ending after => perform clock (fromScript value) world = (ending, after) := by
  have settles := settles_member clock graph kept held value member world good
  constructor
  · intro straight
    obtain ⟨result, after, unfolds, good⟩ := settles.converts straight
    have ended := converse_fromScript clock value world after _ unfolds
    exact ⟨result, after, by rw [perform, ended]; rfl, good⟩
  · intro sinks
    obtain ⟨reason, after, unfolds, overflow⟩ := settles.fails sinks
    have ended := converse_fromScript clock value world after _ unfolds
    refine ⟨reason, ⟨{ after.machine with depth := world.machine.depth, waiting := world.machine.waiting }, after.host⟩,
      ?_, overflow⟩
    rw [perform, ended]
    rfl

theorem eval_isCompleted_iff (session : Session) (code : String) (value : Value) (after : Session)
    (clean : code.contains '\x00' = false)
    (ran : (session.begun clock).run clock (Runtime.evaluate (Units.ofString code)) = (.value value, after))
    (early : ¬ session.InterruptsEarly clock code) (member : graph.Member value)
    (good : kept ⟨after.machine, after.unbound.host⟩) :
    (session.eval clock code).1.isCompleted = true ↔ ¬ graph.Sinks value := by
  have unlatched : ((session.begun clock).evaluated clock code).2.host.governor.timedOut = false := by
    rw [← Bool.not_eq_true, Session.evaluated_latched]
    exact early
  have same : (session.begun clock).evaluated clock code = after.unbound.converted clock value := by
    simp only [Session.evaluated, clean, Bool.false_eq_true, if_false, ran]
  have settles := settles_member clock graph kept held value member ⟨after.machine, after.unbound.host⟩ good
  rw [same] at unlatched
  rw [Session.eval_outcome, same]
  by_cases sinks : graph.Sinks value
  · obtain ⟨reason, last, unfolds, -⟩ := settles.fails sinks
    have ended : Host.converse clock (fromScript value after.unbound.machine) after.unbound.host =
        (.thrown reason last.machine, last.host) := converse_fromScript clock value _ last _ unfolds
    have threw : (after.unbound.converted clock value).1 = .thrown reason := by
      simp only [Session.converted, Session.run, ended, Session.settled]
    refine iff_of_false ?_ (not_not_intro sinks)
    simp [Session.finished, unlatched, threw, EvalOutcome.isCompleted]
  · obtain ⟨result, last, unfolds, -⟩ := settles.converts sinks
    have ended : Host.converse clock (fromScript value after.unbound.machine) after.unbound.host =
        (.value result last.machine, last.host) := converse_fromScript clock value _ last _ unfolds
    have gave : (after.unbound.converted clock value).1 = .value result := by
      simp only [Session.converted, Session.run, ended, Session.settled]
    refine iff_of_true ?_ sinks
    simp [Session.finished, unlatched, gave, EvalOutcome.isCompleted]

end

/-! ### Arrays one inside the other, the last inside itself -/

def knot (index : Nat) : Ref := Intrinsic.count + 4 + index

def furnish (count : Nat) (object : Nat → Object) : Array Object := smallHeap ++ (Array.range count).map object

theorem furnish_get (count : Nat) (object : Nat → Object) (index : Nat) (less : index < count) :
    (furnish count object)[knot index]? = some (object index) := by
  have size : smallHeap.size = Intrinsic.count + 4 := by simp [smallHeap]
  rw [furnish, Array.getElem?_append_right (by rw [size]; exact Nat.le_add_right _ _), size, knot, Nat.add_sub_cancel_left,
    Array.getElem?_map, Array.getElem?_range, if_pos less]
  rfl

theorem untouched_furnish (count : Nat) (object : Nat → Object) : Untouched smallMethods (furnish count object) := by
  have before (ref : Ref) (low : ref < smallHeap.size) : (furnish count object)[ref]? = smallHeap[ref]? := by
    rw [furnish, Array.getElem?_append_left low]
  apply untouched_small.kept smallMethods smallHeap (furnish count object) smallHeap.size
  refine ⟨⟨Nat.le_refl _, ?_⟩, before, fun ref low high => absurd high (Nat.not_lt.2 low)⟩
  simp [furnish]

def within (count index : Nat) : Nat := min (index + 1) (count - 1)

def knotHeap (count : Nat) : Array Object :=
  smallHeap ++ (Array.range count).map fun index => fullArray #[.object (knot (within count index))]

def knots (count : Nat) (some_ : 0 < count) : ArrayGraph where
  arrays := (List.range count).map knot
  items ref := [.object (knot (within count (ref - knot 0)))]
  closed := by
    intro array among item inside
    right
    refine ⟨_, ?_, List.mem_singleton.1 inside⟩
    simp only [List.mem_map, List.mem_range]
    exact ⟨_, by simp only [within]; omega, rfl⟩

def KnotWorld (count : Nat) (world : World) : Prop :=
  world.machine.heap = knotHeap count ∧ world.host.governor.timedOut = false

section

variable (count : Nat) (some_ : 0 < count)

theorem knotHeap_get (index : Nat) (less : index < count) :
    (knotHeap count)[knot index]? = some (fullArray #[.object (knot (within count index))]) :=
  furnish_get count _ index less

theorem untouched_knotHeap : Untouched smallMethods (knotHeap count) := untouched_furnish count _

theorem mem_knots (ref : Ref) : ref ∈ (knots count some_).arrays ↔ ∃ index < count, ref = knot index := by
  simp only [knots, List.mem_map, List.mem_range]
  constructor
  · rintro ⟨index, less, rfl⟩
    exact ⟨index, less, rfl⟩
  · rintro ⟨index, less, rfl⟩
    exact ⟨index, less, rfl⟩

theorem knots_items (index : Nat) : (knots count some_).items (knot index) = [.object (knot (within count index))] := by
  have place : knot index - knot 0 = index := Nat.add_sub_cancel_left _ _
  simp only [knots, place]

theorem knots_leads (index : Nat) (less : index < count) :
    (knots count some_).Leads (knot index) (knot (within count index)) := by
  refine ⟨(mem_knots count some_ _).2 ⟨index, less, rfl⟩, ?_⟩
  rw [knots_items]
  exact List.mem_singleton_self _

theorem knots_tangled (index : Nat) (less : index < count) : (knots count some_).Tangled (knot index) := by
  have last : within count (count - 1) = count - 1 := by
    simp only [within]
    omega
  refine ⟨knot (count - 1), ?_, .single ?_⟩
  · induction left : count - 1 - index generalizing index with
    | zero =>
      obtain rfl : index = count - 1 := by omega
      exact .refl
    | succ left ih =>
      have next : within count index = index + 1 := by
        simp only [within]
        omega
      have leads := knots_leads count some_ index less
      rw [next] at leads
      exact .head leads (ih (index + 1) (by omega) (by omega))
  · have leads := knots_leads count some_ (count - 1) (by omega)
    rwa [last] at leads

theorem endless_knotHeap : Endless (knotHeap count) fun ref => ∃ index < count, ref = knot index := by
  rintro _ ⟨index, less, rfl⟩
  have bound : 1 ≤ Value.longest := by decide
  refine ⟨_, knot (within count index), knotHeap_get count index less, bound, rfl, within count index, ?_, rfl⟩
  simp only [within]
  omega

@[reducible] def knotRuntime : Runtime where
  toSurface := surface smallMethods 1
  evaluate _ := return .object (knot 0)
  define _ _ := return ()

theorem held_knots (clock : Clock) : @Held knotRuntime.toSurface clock (knots count some_) (KnotWorld count) := by
  have place (array : Ref) (known : array ∈ (knots count some_).arrays) (world : World) (good : KnotWorld count world) :
      ∃ index < count, array = knot index ∧
        world.machine.heap[array]? = some (fullArray #[.object (knot (within count index))]) := by
    obtain ⟨index, less, same⟩ := (mem_knots count some_ array).1 known
    refine ⟨index, less, same, ?_⟩
    rw [good.1, same, knotHeap_get count index less]
  have bound : 1 ≤ Value.longest := by decide
  refine @Held.mk knotRuntime.toSurface clock _ _ ?_ ?_ ?_ ?_ ?_
  · intro array known world good
    obtain ⟨index, less, rfl, there⟩ := place array known world good
    exact ⟨world, perform_done clock _ world true (isArray_of_array _ _ _ _ _ _ there rfl), good⟩
  · intro array known world good
    obtain ⟨index, less, rfl, there⟩ := place array known world good
    rw [knots_items]
    exact ⟨world, perform_done clock _ world _ (@lengthOf_fullArray (engine smallMethods 1) _ _ _ there bound), good⟩
  · intro array known position item found world good
    obtain ⟨index, less, rfl, there⟩ := place array known world good
    rw [knots_items] at found
    cases position with
    | succ position => cases found
    | zero =>
      cases found
      exact ⟨world, perform_done clock _ world _
        (@get_element (engine smallMethods 1) _ _ _ there 0 _ rfl nofun), good⟩
  · intro array known straight
    obtain ⟨index, less, rfl⟩ := (mem_knots count some_ array).1 known
    exact absurd (knots_tangled count some_ index less) straight
  · intro array known tangled world good
    have untouched := untouched_knotHeap count
    have endless := endless_knotHeap count
    rw [← good.1] at untouched endless
    obtain ⟨reason, after, ended, overflow⟩ := overflows_toUnits smallMethods world.machine untouched _ endless 1 array
      ((mem_knots count some_ array).1 known)
    refine ⟨reason, ⟨{ after with depth := world.machine.depth, waiting := world.machine.waiting }, world.host⟩, ?_,
      overflow⟩
    change perform clock (@Value.toUnits (engine smallMethods 1) (.object array)) world = _
    rw [perform, ended]
    rfl

def knotSession : Session :=
  { limits := { memoryBytes := 1000, timeoutMs := 0, consoleBytes := 0 }
    machine := { (default : Machine) with heap := knotHeap count }
    host := .create (.empty 0) 0 }

theorem sinks_knots (deep : 129 ≤ count) : (knots count some_).Sinks (.object (knot 0)) := by
  refine ⟨knot 0, (List.range 129).map knot, rfl, by simp [deepestWalk], ⟨rfl, ?_, ?_, ?_⟩⟩
  · rw [List.isChain_map, List.isChain_range]
    intro index less
    have leads := knots_leads count some_ index (by omega)
    have next : within count index = index + 1 := by
      simp only [within]
      omega
    rwa [next] at leads
  · apply List.Nodup.map _ List.nodup_range
    intro first second same
    exact Nat.add_left_cancel same
  · refine ⟨knot 128, ?_, knots_tangled count some_ 128 (by omega)⟩
    rw [List.getLast?_map, List.getLast?_range]
    rfl

theorem member_knots : (knots count some_).Member (.object (knot 0)) :=
  .inr ⟨knot 0, (mem_knots count some_ _).2 ⟨0, some_, rfl⟩, rfl⟩

theorem knotWorld_session (clock : Clock) :
    KnotWorld count ⟨((knotSession count).begun clock).machine, ((knotSession count).begun clock).unbound.host⟩ :=
  ⟨rfl, rfl⟩

include some_ in
theorem knotSession_early (clock : Clock) (few : count ≤ 128) :
    ¬ @Session.InterruptsEarly knotRuntime (knotSession count) clock "" := by
  have straight : ¬ (knots count some_).Sinks (.object (knot 0)) :=
    (knots count some_).not_sinks_of_few _ (member_knots count some_) (by simpa [knots, deepestWalk] using few)
  obtain ⟨result, last, unfolds, good⟩ := (@settles_member knotRuntime.toSurface clock (knots count some_) (KnotWorld count)
    (held_knots count some_ clock) _ (member_knots count some_) _ (knotWorld_session count clock)).converts straight
  have ended := @converse_fromScript knotRuntime.toSurface clock _ _ last _ unfolds
  rw [← @Session.evaluated_latched knotRuntime, Bool.not_eq_true]
  have clean : "".contains '\x00' = false := by simp
  have same : @Session.evaluated knotRuntime ((knotSession count).begun clock) clock "" =
      @Session.converted knotRuntime ((knotSession count).begun clock).unbound clock (.object (knot 0)) := by
    simp only [Session.evaluated, clean, Bool.false_eq_true, if_false]
    rfl
  rw [same, @Session.converted_session knotRuntime, Session.run_host]
  refine Eq.trans ?_ good.2
  exact congrArg (fun ended => ended.2.governor.timedOut) ended

end

/-! ### Which conversions succeed -/

section

variable (clock : Clock) (graph : ArrayGraph) [Runtime] (kept : World → Prop) (held : graph.Held clock kept)
include held

/-- In an engine that holds plain arrays, the conversion of one of them, or of a value without parts, succeeds unless
different arrays, one more than the walk goes down, each an item of the one before, lead to one that contains itself
or leads to such a one. Then it throws the engine's error of too many calls. This takes more arrays than the walk
goes down, and an array that contains itself. An evaluation in time that comes to such a value completes exactly if
the conversion succeeds. -/
theorem converts_iff :
    (∀ value world, graph.Member value → kept world →
      ((∃ result after, perform clock (fromScript value) world = (.value result, after) ∧ kept after) ↔
        ¬ graph.Sinks value) ∧
      (graph.Sinks value → ∃ reason after, perform clock (fromScript value) world = (.thrown reason, after) ∧
        IsOverflow after.machine reason)) ∧
    (∀ value, graph.Member value → graph.Sinks value →
      128 < graph.arrays.length ∧ ∃ array, Relation.TransGen graph.Leads array array) ∧
    (∀ (session : Session) (code : String) (value : Value) (after : Session),
      code.contains '\x00' = false →
      (session.begun clock).run clock (Runtime.evaluate (Units.ofString code)) = (.value value, after) →
      ¬ session.InterruptsEarly clock code → graph.Member value → kept ⟨after.machine, after.unbound.host⟩ →
        ((session.eval clock code).1.isCompleted = true ↔ ¬ graph.Sinks value)) := by
  refine ⟨fun value world member good => ?_, fun value member sinks => ?_, ?_⟩
  · have settles := settles_fromScript clock graph kept held value member world good
    refine ⟨⟨?_, settles.converts⟩, settles.fails⟩
    rintro ⟨result, after, came, -⟩ sinks
    obtain ⟨reason, last, failed, -⟩ := settles.fails sinks
    rw [came] at failed
    cases failed
  · constructor
    · by_contra few
      exact graph.not_sinks_of_few value member (Nat.le_of_not_lt few) sinks
    · obtain ⟨first, way, -, -, ⟨-, -, -, last, -, knot, -, again⟩⟩ := sinks
      exact ⟨knot, again⟩
  · intro session code value after clean ran early member good
    exact eval_isCompleted_iff clock graph kept held session code value after clean ran early member good

end

/-- Two of these arrays convert, and an evaluation that comes to them completes. -/
theorem converts_knots :
    @Held knotRuntime.toSurface Sandbox.stillClock (knots 2 (by decide)) (KnotWorld 2) ∧
    (knots 2 (by decide)).Member (.object (knot 0)) ∧
    (∃ world result after, KnotWorld 2 world ∧
      perform Sandbox.stillClock (@fromScript knotRuntime.toSurface (.object (knot 0))) world = (.value result, after)) ∧
    (@Session.eval knotRuntime (knotSession 2) Sandbox.stillClock "").1.isCompleted = true := by
  have held := held_knots 2 (by decide) Sandbox.stillClock
  have member := member_knots 2 (by decide)
  have good := knotWorld_session 2 Sandbox.stillClock
  obtain ⟨converts, deep, completes⟩ :=
    @converts_iff Sandbox.stillClock (knots 2 (by decide)) knotRuntime (KnotWorld 2) held
  have straight : ¬ (knots 2 (by decide)).Sinks (.object (knot 0)) := fun sinks =>
    absurd (deep _ member sinks).1 (by decide)
  obtain ⟨result, after, came, -⟩ := (converts _ _ member good).1.2 straight
  refine ⟨held, member, ⟨_, result, after, good, came⟩, ?_⟩
  exact (completes (knotSession 2) "" (.object (knot 0)) ((knotSession 2).begun Sandbox.stillClock) (by simp) rfl
    (knotSession_early 2 (by decide) Sandbox.stillClock (by decide)) member good).2 straight

/-- Of 129 of these arrays, the last inside itself, the conversion throws. -/
theorem knots_overflow :
    @Held knotRuntime.toSurface Sandbox.stillClock (knots 129 (by decide)) (KnotWorld 129) ∧
    (knots 129 (by decide)).arrays.length < 1000 ∧ (knots 129 (by decide)).Member (.object (knot 0)) ∧
    ∃ world reason after, KnotWorld 129 world ∧
      perform Sandbox.stillClock (@fromScript knotRuntime.toSurface (.object (knot 0))) world = (.thrown reason, after) ∧
      IsOverflow after.machine reason := by
  have held := held_knots 129 (by decide) Sandbox.stillClock
  have member := member_knots 129 (by decide)
  have good := knotWorld_session 129 Sandbox.stillClock
  obtain ⟨reason, after, failed, overflow⟩ := (@settles_fromScript Sandbox.stillClock (knots 129 (by decide)) knotRuntime
    (KnotWorld 129) held _ member _ good).fails (sinks_knots 129 (by decide) (Nat.le_refl _))
  exact ⟨held, by simp [knots], member, _, reason, after, good, failed, overflow⟩

end ArrayGraph

end Marshal

end ScriptSandbox
