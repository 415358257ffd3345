import Mathlib.Data.List.Chain
import Mathlib.Data.List.Nodup
import Mathlib.Data.List.Perm.Subperm
import Mathlib.Logic.Relation
import ScriptSandbox.Proofs.EndlessText

/-!
Graphs of plain arrays. An engine writes an array that does not contain itself, and gives up on one that does
or that leads to such a one. The walk meets the first array on its path again and marks it; what lies below
its limit it leaves to the engine. So a conversion fails in one case only: a path of different arrays, one
longer than the limit, ends with an array that the engine gives up on.
-/

namespace ScriptSandbox

open Script Script.Execution

theorem converse_of_perform (clock : Clock) (part : Execution α) (result : α) (world after : World)
    (performed : perform clock part world = (.value result, after)) :
    Host.converse clock (part world.machine) world.host = (.value result after.machine, after.host) := by
  unfold perform at performed
  split at performed
  next ended =>
    cases performed
    exact ended
  next => cases performed
  next => cases performed

theorem perform_bind (clock : Clock) (first : Execution α) (next : α → Execution β) (middle : α) (result : β)
    (before between after : World) (started : perform clock first before = (.value middle, between))
    (ended : perform clock (next middle) between = (.value result, after)) :
    perform clock (first >>= next) before = (.value result, after) := by
  have whole := (converse_bind_value clock first next middle before between
    (converse_of_perform clock first middle before between started)).trans
    (converse_of_perform clock (next middle) result between after ended)
  rw [perform, whole]

theorem perform_bind_thrown (clock : Clock) (first : Execution α) (next : α → Execution β) (reason : Value)
    (before after : World) (failed : perform clock first before = (.thrown reason, after)) :
    perform clock (first >>= next) before = (.thrown reason, after) := by
  unfold perform at failed ⊢
  rw [bind_eq, Host.converse_bind]
  split at failed
  next => cases failed
  next ended =>
    cases failed
    simp only [ended, follow, Host.converse]
  next => cases failed

namespace Marshal

/-! ### Graphs -/

/-- Finitely many arrays that hold values without parts and each other, in any way. -/
structure ArrayGraph where
  arrays : List Ref
  items : Ref → List Value
  closed : ∀ array ∈ arrays, ∀ item ∈ items array,
    (plain? item).isSome = true ∨ ∃ inner ∈ arrays, item = .object inner

namespace ArrayGraph

section

variable (graph : ArrayGraph)

def Member (value : Value) : Prop := (plain? value).isSome = true ∨ ∃ array ∈ graph.arrays, value = .object array

def Leads (outer inner : Ref) : Prop := outer ∈ graph.arrays ∧ .object inner ∈ graph.items outer

/-- An array contains itself, directly or through others, or leads to one that does. -/
def Tangled (array : Ref) : Prop :=
  ∃ knot, Relation.ReflTransGen graph.Leads array knot ∧ Relation.TransGen graph.Leads knot knot

/-- A way down through different arrays, from a first one to a tangled one. -/
structure Descent (first : Ref) (way : List Ref) : Prop where
  starts : way.head? = some first
  leads : way.IsChain graph.Leads
  distinct : way.Nodup
  tangled : ∃ last, way.getLast? = some last ∧ graph.Tangled last

/-- Below an array, a tangled one lies one level deeper than the walk goes. -/
def Sinks (value : Value) : Prop :=
  ∃ first way, value = .object first ∧ way.length = deepestWalk + 1 ∧ graph.Descent first way

theorem leads_mem (outer inner : Ref) (leads : graph.Leads outer inner) : inner ∈ graph.arrays := by
  obtain ⟨known, holds⟩ := leads
  rcases graph.closed outer known _ holds with plain | ⟨array, among, same⟩
  · cases plain
  · cases same
    exact among

def SinksWithin : Nat → List Ref → Ref → Prop
  | 0, path, array => array ∉ path ∧ graph.Tangled array
  | levels + 1, path, array => array ∉ path ∧ ∃ inner, graph.Leads array inner ∧ SinksWithin levels (array :: path) inner

theorem sinksWithin_iff (levels : Nat) (path : List Ref) (array : Ref) :
    graph.SinksWithin levels path array ↔
      ∃ way, way.length = levels + 1 ∧ graph.Descent array way ∧ ∀ ref ∈ way, ref ∉ path := by
  induction levels generalizing path array with
  | zero =>
    constructor
    · rintro ⟨fresh, tangled⟩
      refine ⟨[array], rfl, ⟨rfl, .singleton _, List.nodup_singleton _, array, rfl, tangled⟩, ?_⟩
      simpa using fresh
    · rintro ⟨way, length, ⟨starts, -, -, last, ends, tangled⟩, fresh⟩
      obtain ⟨only, rfl⟩ := List.length_eq_one_iff.1 length
      cases starts
      cases ends
      exact ⟨fresh array List.mem_cons_self, tangled⟩
  | succ levels ih =>
    constructor
    · rintro ⟨fresh, inner, leads, sinks⟩
      obtain ⟨way, length, descent, apart⟩ := (ih (array :: path) inner).1 sinks
      have new : array ∉ way := fun among => apart array among List.mem_cons_self
      obtain ⟨rest, rfl⟩ : ∃ rest, way = inner :: rest := by
        cases way with
        | nil => cases descent.starts
        | cons other rest =>
          cases descent.starts
          exact ⟨rest, rfl⟩
      refine ⟨array :: inner :: rest, by rw [List.length_cons, length], ⟨rfl, ?_, ?_, ?_⟩, ?_⟩
      · exact List.isChain_cons_cons.2 ⟨leads, descent.leads⟩
      · exact List.nodup_cons.2 ⟨new, descent.distinct⟩
      · obtain ⟨last, ends, tangled⟩ := descent.tangled
        exact ⟨last, by rwa [List.getLast?_cons_cons], tangled⟩
      · intro ref among
        rcases List.mem_cons.1 among with rfl | later
        · exact fresh
        · exact fun inside => apart ref later (List.mem_cons_of_mem _ inside)
    · rintro ⟨way, length, ⟨starts, leads, distinct, last, ends, tangled⟩, apart⟩
      obtain ⟨inner, rest, rfl⟩ : ∃ inner rest, way = array :: inner :: rest := by
        cases way with
        | nil => cases starts
        | cons first rest =>
          cases starts
          cases rest with
          | nil => cases length
          | cons inner rest => exact ⟨inner, rest, rfl⟩
      obtain ⟨step, leads⟩ := List.isChain_cons_cons.1 leads
      obtain ⟨new, distinct⟩ := List.nodup_cons.1 distinct
      refine ⟨apart array List.mem_cons_self, inner, step, (ih (array :: path) inner).2 ⟨inner :: rest, ?_, ?_, ?_⟩⟩
      · rw [List.length_cons] at length
        exact Nat.succ.inj length
      · exact ⟨rfl, leads, distinct, last, by rwa [List.getLast?_cons_cons] at ends, tangled⟩
      · intro ref among inside
        rcases List.mem_cons.1 inside with rfl | earlier
        · exact new among
        · exact apart ref (List.mem_cons_of_mem _ among) earlier

theorem sinks_object_iff (array : Ref) :
    graph.Sinks (.object array) ↔ graph.SinksWithin deepestWalk [] array := by
  rw [sinksWithin_iff]
  constructor
  · rintro ⟨first, way, same, length, descent⟩
    cases same
    exact ⟨way, length, descent, fun _ _ => List.not_mem_nil⟩
  · rintro ⟨way, length, descent, -⟩
    exact ⟨array, way, rfl, length, descent⟩

theorem mem_arrays_of_chain (way : List Ref) (first : Ref) (leads : (first :: way).IsChain graph.Leads)
    (known : first ∈ graph.arrays) : ∀ ref ∈ first :: way, ref ∈ graph.arrays := by
  induction way generalizing first with
  | nil =>
    intro ref among
    rwa [List.mem_singleton.1 among]
  | cons next way ih =>
    obtain ⟨step, leads⟩ := List.isChain_cons_cons.1 leads
    intro ref among
    rcases List.mem_cons.1 among with rfl | later
    · exact known
    · exact ih next leads (graph.leads_mem first next step) ref later

theorem not_sinks_of_few (value : Value) (member : graph.Member value) (few : graph.arrays.length ≤ deepestWalk) :
    ¬ graph.Sinks value := by
  rintro ⟨first, way, rfl, length, ⟨starts, leads, distinct, -⟩⟩
  have known : first ∈ graph.arrays := by
    rcases member with plain | ⟨array, among, same⟩
    · cases plain
    · cases same
      exact among
  obtain ⟨rest, rfl⟩ : ∃ rest, way = first :: rest := by
    cases way with
    | nil => cases starts
    | cons other rest =>
      cases starts
      exact ⟨rest, rfl⟩
  have within : first :: rest ⊆ graph.arrays := graph.mem_arrays_of_chain rest first leads known
  have bound := (List.subperm_of_subset distinct within).length_le
  omega

end

/-! ### Engines that hold a graph -/

/-- In worlds of some kind an engine reads the arrays of a graph as they are, writes those that are not
tangled, and remains in these worlds; on a tangled one it gives up. -/
structure Held [Surface] (clock : Clock) (graph : ArrayGraph) (kept : World → Prop) : Prop where
  isArray : ∀ array ∈ graph.arrays, ∀ world, kept world → ∃ after,
    perform clock (Surface.isArray (.object array)) world = (.value true, after) ∧ kept after
  length : ∀ array ∈ graph.arrays, ∀ world, kept world → ∃ after,
    perform clock (Surface.lengthOf (.object array)) world = (.value (graph.items array).length, after) ∧ kept after
  item : ∀ array ∈ graph.arrays, ∀ index item, (graph.items array)[index]? = some item → ∀ world, kept world →
    ∃ after, perform clock (Surface.get (.object array) (.index index)) world = (.value item, after) ∧ kept after
  text : ∀ array ∈ graph.arrays, ¬ graph.Tangled array → ∀ world, kept world → ∃ text after,
    perform clock (Surface.toUnits (.object array)) world = (.value text, after) ∧ kept after
  overflow : ∀ array ∈ graph.arrays, graph.Tangled array → ∀ world, kept world → ∃ reason after,
    perform clock (Surface.toUnits (.object array)) world = (.thrown reason, after) ∧ IsOverflow after.machine reason

section

variable [Surface] (clock : Clock) (graph : ArrayGraph) (kept : World → Prop)

structure Settles (sinks : Prop) (unfolds : Ending α → World → Prop) : Prop where
  converts : ¬ sinks → ∃ result after, unfolds (.value result) after ∧ kept after
  fails : sinks → ∃ reason after, unfolds (.thrown reason) after ∧ IsOverflow after.machine reason

variable (held : graph.Held clock kept)
include held

theorem perform_entryLength (array : Ref) (known : array ∈ graph.arrays) (world : World) (good : kept world) :
    ∃ after, perform clock (entryLength (.object array)) world = (.value (graph.items array).length, after) ∧
      kept after := by
  obtain ⟨between, once, good⟩ := held.length array known world good
  obtain ⟨after, again, good⟩ := held.length array known between good
  exact ⟨after, perform_bind clock _ _ _ _ world between after once again, good⟩

theorem settles_text (array : Ref) (known : array ∈ graph.arrays) (world : World) (good : kept world) :
    Settles kept (graph.Tangled array) fun ending after =>
      perform clock (scriptText (.object array)) world = (ending, after) := by
  constructor
  · intro straight
    obtain ⟨text, after, written, good⟩ := held.text array known straight world good
    exact ⟨text.toText, after, perform_bind clock _ _ text _ world after after written rfl, good⟩
  · intro tangled
    obtain ⟨reason, after, failed, overflow⟩ := held.overflow array known tangled world good
    exact ⟨reason, after, perform_bind_thrown clock _ _ reason world after failed, overflow⟩

theorem settles_items (path : List Ref) (array : Ref) (known : array ∈ graph.arrays) (sinks : Value → Prop)
    (each : ∀ item ∈ graph.items array, ∀ world, kept world →
      Settles kept (sinks item) fun ending after => Unfolds clock path item world ending after)
    (rest : List Value) (index : Nat) (left : (graph.items array).drop index = rest)
    (counted : index + rest.length = (graph.items array).length) (world : World) (good : kept world) :
    Settles kept (∃ item ∈ rest, sinks item) fun ending after =>
      UnfoldsFrom clock path array (graph.items array).length index world ending after := by
  induction rest generalizing index world with
  | nil =>
    have over_ : index = (graph.items array).length := counted
    subst over_
    refine ⟨fun _ => ⟨[], world, .done path array _ world, good⟩, ?_⟩
    rintro ⟨item, among, -⟩
    cases among
  | cons item rest ih =>
    have more : index < (graph.items array).length := by
      rw [List.length_cons] at counted
      omega
    have split_ := List.drop_eq_getElem_cons more
    rw [left] at split_
    obtain ⟨here, later⟩ := List.cons.inj split_
    have found : (graph.items array)[index]? = some item := by rw [List.getElem?_eq_getElem more, here]
    obtain ⟨between, read, good⟩ := held.item array known index item found world good
    have first := each item (List.mem_of_getElem? found) between good
    by_cases bad : sinks item
    · refine ⟨fun none_ => absurd ⟨item, List.mem_cons_self, bad⟩ none_, fun _ => ?_⟩
      obtain ⟨reason, after, unfolds, overflow⟩ := first.fails bad
      exact ⟨reason, after,
        .failed path array _ index item world between after (.thrown reason) more read unfolds, overflow⟩
    · obtain ⟨converted, middle, unfolds, good⟩ := first.converts bad
      have others := ih (index + 1) later.symm (by rw [List.length_cons] at counted; omega) middle good
      have same : (∃ other ∈ item :: rest, sinks other) ↔ ∃ other ∈ rest, sinks other := by
        simp [bad]
      rw [same]
      constructor
      · intro straight
        obtain ⟨items, after, collected, good⟩ := others.converts straight
        exact ⟨converted :: items, after,
          .next path array _ index item converted world between middle after _ more read unfolds collected, good⟩
      · intro sunk
        obtain ⟨reason, after, failed, overflow⟩ := others.fails sunk
        exact ⟨reason, after,
          .next path array _ index item converted world between middle after _ more read unfolds failed, overflow⟩

/-- An array settles at the end of every path. The induction is on the levels that are left to the walk. -/
theorem settles_array (levels : Nat) (path : List Ref) (array : Ref) (known : array ∈ graph.arrays)
    (limit : path.length + levels = deepestWalk) (world : World) (good : kept world) :
    Settles kept (graph.SinksWithin levels path array) fun ending after =>
      Unfolds clock path (.object array) world ending after := by
  induction levels generalizing path array world with
  | zero =>
    obtain ⟨between, kind, good⟩ := held.isArray array known world good
    by_cases again : array ∈ path
    · exact ⟨fun _ => ⟨_, between, .circular path array world between kind again, good⟩,
        fun sinks => absurd again sinks.1⟩
    · have shown := settles_text clock graph kept held array known between good
      have deep : deepestWalk ≤ path.length := by omega
      constructor
      · intro straight
        obtain ⟨text, after, written, good⟩ := shown.converts fun tangled => straight ⟨again, tangled⟩
        exact ⟨.text text, after, .deep path array world between after _ kind again deep written, good⟩
      · rintro ⟨-, tangled⟩
        obtain ⟨reason, after, failed, overflow⟩ := shown.fails tangled
        exact ⟨reason, after, .deep path array world between after _ kind again deep failed, overflow⟩
  | succ levels ih =>
    obtain ⟨between, kind, good⟩ := held.isArray array known world good
    by_cases again : array ∈ path
    · exact ⟨fun _ => ⟨_, between, .circular path array world between kind again, good⟩,
        fun sinks => absurd again sinks.1⟩
    obtain ⟨inside, measured, good⟩ := perform_entryLength clock graph kept held array known between good
    have shallow : path.length < deepestWalk := by omega
    have items := settles_items clock graph kept held (array :: path) array known
      (fun item => ∃ inner, item = .object inner ∧ graph.SinksWithin levels (array :: path) inner) ?_
      (graph.items array) 0 rfl (Nat.zero_add _) inside good
    · have same : (∃ item ∈ graph.items array, ∃ inner, item = .object inner ∧
          graph.SinksWithin levels (array :: path) inner) ↔ graph.SinksWithin (levels + 1) path array := by
        constructor
        · rintro ⟨_, among, inner, rfl, sinks⟩
          exact ⟨again, inner, ⟨known, among⟩, sinks⟩
        · rintro ⟨-, inner, ⟨-, among⟩, sinks⟩
          exact ⟨_, among, inner, rfl, sinks⟩
      rw [← same]
      constructor
      · intro straight
        obtain ⟨results, after, collected, good⟩ := items.converts straight
        exact ⟨.list results, after,
          .array path array _ world between inside after _ kind again shallow measured collected, good⟩
      · intro sunk
        obtain ⟨reason, after, failed, overflow⟩ := items.fails sunk
        exact ⟨reason, after,
          .array path array _ world between inside after _ kind again shallow measured failed, overflow⟩
    · intro item among world good
      rcases graph.closed array known item among with plain | ⟨inner, known', rfl⟩
      · obtain ⟨result, simple⟩ := Option.isSome_iff_exists.1 plain
        refine ⟨fun _ => ⟨result, world, unfolds_of_plain clock _ item world result simple, good⟩, ?_⟩
        rintro ⟨inner, rfl, -⟩
        cases simple
      · have below := ih (array :: path) inner known' (by rw [List.length_cons]; omega) world good
        exact ⟨fun straight => below.converts fun sinks => straight ⟨inner, rfl, sinks⟩,
          fun ⟨_, same, sinks⟩ => below.fails (Value.object.inj same ▸ sinks)⟩

theorem settles_member (value : Value) (member : graph.Member value) (world : World) (good : kept world) :
    Settles kept (graph.Sinks value) fun ending after => Unfolds clock [] value world ending after := by
  rcases member with plain | ⟨array, known, rfl⟩
  · obtain ⟨result, simple⟩ := Option.isSome_iff_exists.1 plain
    refine ⟨fun _ => ⟨result, world, unfolds_of_plain clock [] value world result simple, good⟩, ?_⟩
    rintro ⟨first, way, rfl, -⟩
    cases simple
  · rw [graph.sinks_object_iff]
    exact settles_array clock graph kept held deepestWalk [] array known rfl world good

end

end ArrayGraph

end Marshal

end ScriptSandbox
