import Mathlib
import ScriptSandbox.Proofs.PlainArrays

/-!
How large a converted value is. The walk knows the arrays that it is inside of and no others, so an array is
converted once for every way down to it, and with as many items as it is long, whether they are stored or not. The
result has one node and one more for each of these items. Where no array is an item at two places, these are no more
than the arrays have items; where arrays are shared, the ways multiply with every level.
-/

namespace ScriptSandbox

open Script Script.Execution

/-! ### Nodes -/

namespace HostValue

mutual

def nodes : HostValue → Nat
  | .list items => 1 + itemNodes items
  | .map entries => 1 + entryNodes entries
  | _ => 1

def itemNodes : List HostValue → Nat
  | [] => 0
  | item :: rest => item.nodes + itemNodes rest

def entryNodes : List (HostValue × HostValue) → Nat
  | [] => 0
  | (key, value) :: rest => key.nodes + value.nodes + entryNodes rest

end

end HostValue

namespace Marshal

/-! ### Graphs of arrays -/

/-- Finitely many arrays that hold each other, and other values that are no objects. -/
structure HeapGraph where
  arrays : List Ref
  items : Ref → List Value
  closed : ∀ array ∈ arrays, ∀ inner, .object inner ∈ items array → inner ∈ arrays

namespace HeapGraph

variable (graph : HeapGraph)

def Member (value : Value) : Prop :=
  (∃ array ∈ graph.arrays, value = .object array) ∨ ∃ array ∈ graph.arrays, value ∈ graph.items array

def Leads (outer inner : Ref) : Prop := .object inner ∈ graph.items outer

def Reaches (value : Value) (array : Ref) : Prop :=
  ∃ first, value = .object first ∧ Relation.ReflTransGen graph.Leads first array

open Classical in
noncomputable def reachable (value : Value) : Finset Ref := graph.arrays.toFinset.filter (graph.Reaches value)

noncomputable def total (value : Value) : Nat := ∑ array ∈ graph.reachable value, (graph.items array).length

def Unshared (value : Value) : Prop :=
  ∀ (outer outer' inner : Ref) (place place' : Nat), graph.Reaches value outer → graph.Reaches value outer' →
    (graph.items outer)[place]? = some (.object inner) → (graph.items outer')[place']? = some (.object inner) →
    outer = outer' ∧ place = place'

/-- The arrays that are gone into below a path, one for each way down through different ones, with so many levels
left. -/
def walked : Nat → List Ref → Value → List Ref
  | levels + 1, path, .object array =>
    if array ∈ path then [] else array :: (graph.items array).flatMap (walked levels (array :: path))
  | _, _, _ => []

def weight (levels : Nat) (path : List Ref) (value : Value) : Nat :=
  ((graph.walked levels path value).map fun array => (graph.items array).length).sum

theorem weight_other (levels : Nat) (path : List Ref) (value : Value) (other : ∀ array, value ≠ .object array) :
    graph.weight levels path value = 0 := by
  cases value with
  | object array => exact absurd rfl (other array)
  | _ => cases levels <;> rfl

theorem weight_again (levels : Nat) (path : List Ref) (array : Ref) (again : array ∈ path) :
    graph.weight levels path (.object array) = 0 := by
  cases levels with
  | zero => rfl
  | succ levels => rw [weight, walked, if_pos again, List.map_nil, List.sum_nil]

theorem weight_zero (path : List Ref) (value : Value) : graph.weight 0 path value = 0 := rfl

theorem weight_enter (levels : Nat) (path : List Ref) (array : Ref) (fresh : array ∉ path) :
    graph.weight (levels + 1) path (.object array) =
      ((graph.items array).map fun item => 1 + graph.weight levels (array :: path) item).sum := by
  have inside (items : List Value) : ((items.flatMap (graph.walked levels (array :: path))).map
      fun array => (graph.items array).length).sum = (items.map (graph.weight levels (array :: path))).sum := by
    induction items with
    | nil => rfl
    | cons item items ih =>
      rw [List.flatMap_cons, List.map_append, List.sum_append, ih, List.map_cons, List.sum_cons, weight]
  rw [weight, walked, if_neg fresh, List.map_cons, List.sum_cons, inside, List.sum_map_add,
    List.map_const', List.sum_replicate, smul_eq_mul, Nat.mul_one]

/-! ### Bounds -/

theorem known_of_member (array : Ref) (member : graph.Member (.object array)) : array ∈ graph.arrays := by
  obtain ⟨other, known, same⟩ | ⟨outer, known, among⟩ := member
  · cases same
    exact known
  · exact graph.closed outer known array among

theorem reaches_leads (value : Value) (outer inner : Ref) (reaches : graph.Reaches value outer)
    (leads : graph.Leads outer inner) : graph.Reaches value inner := by
  obtain ⟨first, same, way⟩ := reaches
  exact ⟨first, same, way.tail leads⟩

theorem mem_of_reaches (value : Value) (member : graph.Member value) (array : Ref)
    (reaches : graph.Reaches value array) : array ∈ graph.arrays := by
  obtain ⟨first, rfl, way⟩ := reaches
  induction way with
  | refl => exact graph.known_of_member first member
  | tail _ leads ih => exact graph.closed _ ih _ leads

theorem mem_reachable (value : Value) (member : graph.Member value) (array : Ref) :
    array ∈ graph.reachable value ↔ graph.Reaches value array := by
  simp only [reachable, Finset.mem_filter, List.mem_toFinset]
  exact and_iff_right_of_imp (graph.mem_of_reaches value member array)

/-- With every level the nodes grow by the length of an array at most. -/
theorem weight_le_geometric (root : Value) (longest : Nat)
    (short : ∀ array, graph.Reaches root array → (graph.items array).length ≤ longest) (levels : Nat) (path : List Ref)
    (value : Value) (reached : ∀ array, value = .object array → graph.Reaches root array) :
    1 + graph.weight levels path value ≤ ∑ level ∈ Finset.range (levels + 1), longest ^ level := by
  induction levels generalizing path value with
  | zero => simp [weight_zero]
  | succ levels ih =>
    rw [geom_sum_succ, Nat.add_comm]
    refine Nat.succ_le_succ ?_
    by_cases enters : ∃ array, value = .object array ∧ array ∉ path
    · obtain ⟨array, rfl, fresh⟩ := enters
      rw [graph.weight_enter levels path array fresh]
      have each : ∀ item ∈ graph.items array, 1 + graph.weight levels (array :: path) item ≤
          ∑ level ∈ Finset.range (levels + 1), longest ^ level := by
        intro item among
        refine ih (array :: path) item ?_
        rintro inner rfl
        exact graph.reaches_leads root array inner (reached array rfl) among
      refine (List.sum_le_card_nsmul _ _ (List.forall_mem_map.2 each)).trans ?_
      rw [List.length_map, smul_eq_mul]
      exact Nat.mul_le_mul_right _ (short array (reached array rfl))
    · have nothing : graph.weight (levels + 1) path value = 0 := by
        by_cases object : ∃ array, value = .object array
        · obtain ⟨array, rfl⟩ := object
          by_cases again : array ∈ path
          · exact graph.weight_again (levels + 1) path array again
          · exact absurd ⟨array, rfl, again⟩ enters
        · exact graph.weight_other _ _ _ fun array same => object ⟨array, same⟩
      rw [nothing]
      exact Nat.zero_le _

def Off (root : Value) (path : List Ref) (outer inner : Ref) : Prop :=
  graph.Reaches root outer ∧ graph.Leads outer inner ∧ outer ∉ path ∧ inner ∉ path

theorem object_of_walked (levels : Nat) (path : List Ref) (value : Value) (inner : Ref)
    (among : inner ∈ graph.walked levels path value) : ∃ array, value = .object array := by
  cases value with
  | object array => exact ⟨array, rfl⟩
  | _ => cases levels <;> cases among

theorem off_of_walked (root : Value) (levels : Nat) (path : List Ref) (array : Ref) (reached : graph.Reaches root array)
    (inner : Ref) (among : inner ∈ graph.walked levels path (.object array)) :
    array ∉ path ∧ Relation.ReflTransGen (graph.Off root path) array inner := by
  induction levels generalizing path array with
  | zero => cases among
  | succ levels ih =>
    rw [walked] at among
    split at among
    · cases among
    · next fresh =>
      refine ⟨fresh, ?_⟩
      obtain rfl | later := List.mem_cons.1 among
      · exact .refl
      · obtain ⟨item, there, below⟩ := List.mem_flatMap.1 later
        obtain ⟨next, rfl⟩ := graph.object_of_walked levels (array :: path) item inner below
        obtain ⟨new, way⟩ := ih (array :: path) next (graph.reaches_leads root array next reached there) below
        have wider : Relation.ReflTransGen (graph.Off root path) next inner :=
          Relation.ReflTransGen.mono
            (fun outer inner step => ⟨step.1, step.2.1, fun on => step.2.2.1 (List.mem_cons_of_mem _ on),
              fun on => step.2.2.2 (List.mem_cons_of_mem _ on)⟩) _ _ way
        exact .head ⟨reached, there, fresh, fun on => new (List.mem_cons_of_mem _ on)⟩ wider

theorem fresh_of_walked (root : Value) (levels : Nat) (path : List Ref) (array : Ref)
    (reached : graph.Reaches root array) (inner : Ref)
    (among : inner ∈ graph.walked levels path (.object array)) : inner ∉ path := by
  obtain ⟨fresh, way⟩ := graph.off_of_walked root levels path array reached inner among
  obtain rfl | ⟨last, -, step⟩ := way.cases_tail
  · exact fresh
  · exact step.2.2.2

section

variable (root : Value) (unshared : graph.Unshared root)
include unshared

theorem place_unique (outer outer' inner : Ref) (reached : graph.Reaches root outer)
    (reached' : graph.Reaches root outer') (leads : graph.Leads outer inner) (leads' : graph.Leads outer' inner) :
    outer = outer' := by
  obtain ⟨place, there⟩ := List.mem_iff_getElem?.1 leads
  obtain ⟨place', there'⟩ := List.mem_iff_getElem?.1 leads'
  exact (unshared outer outer' inner place place' reached reached' there there').1

theorem eq_of_off (path : List Ref) (array first second : Ref) (reached : graph.Reaches root array) (on : array ∈ path)
    (holds : graph.Leads array second)
    (way : Relation.ReflTransGen (graph.Off root path) first second) : first = second := by
  obtain rfl | ⟨last, -, below, leads, off, -⟩ := way.cases_tail
  · rfl
  · exact absurd (graph.place_unique root unshared last array second below reached leads holds ▸ on) off

/-- No array is gone into twice. The induction is on the levels; two ways to one array would meet on their way back. -/
theorem nodup_walked (levels : Nat) (path : List Ref) (value : Value)
    (reached : ∀ array, value = .object array → graph.Reaches root array) : (graph.walked levels path value).Nodup := by
  induction levels generalizing path value with
  | zero => exact List.nodup_nil
  | succ levels ih =>
    cases value with
    | object array =>
      rw [walked]
      split
      · exact List.nodup_nil
      next fresh =>
      have known := reached array rfl
      have below (item : Value) (among : item ∈ graph.items array) :
          ∀ inner, item = .object inner → graph.Reaches root inner := by
        rintro inner rfl
        exact graph.reaches_leads root array inner known among
      rw [List.nodup_cons, List.nodup_flatMap]
      refine ⟨fun again => ?_, fun item among => ih (array :: path) item (below item among), ?_⟩
      · obtain ⟨item, among, inside⟩ := List.mem_flatMap.1 again
        obtain ⟨next, rfl⟩ := graph.object_of_walked levels (array :: path) item array inside
        exact graph.fresh_of_walked root levels (array :: path) next (below _ among next rfl) array
          inside List.mem_cons_self
      · rw [List.pairwise_iff_getElem]
        intro place place' less less' before inner among among'
        obtain ⟨first, here⟩ := graph.object_of_walked _ _ _ inner among
        obtain ⟨second, there⟩ := graph.object_of_walked _ _ _ inner among'
        have leads : graph.Leads array first := List.mem_iff_getElem.2 ⟨place, less, here⟩
        have leads' : graph.Leads array second := List.mem_iff_getElem.2 ⟨place', less', there⟩
        rw [here] at among
        rw [there] at among'
        have way := (graph.off_of_walked root levels _ first (below _ leads first rfl) inner among).2
        have way' := (graph.off_of_walked root levels _ second (below _ leads' second rfl) inner among').2
        have same : first = second := by
          have unique : Relator.RightUnique (Function.swap (graph.Off root (array :: path))) :=
            fun _ _ _ step step' => graph.place_unique root unshared _ _ _ step.1 step'.1 step.2.1 step'.2.1
          obtain back | back := Relation.ReflTransGen.total_of_right_unique unique (Relation.reflTransGen_swap.2 way)
            (Relation.reflTransGen_swap.2 way')
          · exact (graph.eq_of_off root unshared _ array second first known List.mem_cons_self leads
              (Relation.reflTransGen_swap.1 back)).symm
          · exact graph.eq_of_off root unshared _ array first second known List.mem_cons_self leads'
              (Relation.reflTransGen_swap.1 back)
        have places := unshared array array first place place' known known
          (by rw [List.getElem?_eq_getElem less, here]) (by rw [List.getElem?_eq_getElem less', there, same])
        omega
    | _ => exact List.nodup_nil

theorem weight_le_total (member : graph.Member root) (levels : Nat) :
    graph.weight levels [] root ≤ graph.total root := by
  have reached : ∀ array, root = .object array → graph.Reaches root array := fun array same => ⟨array, same, .refl⟩
  rw [weight, total, ← List.sum_toFinset _ (graph.nodup_walked root unshared levels [] root reached)]
  refine Finset.sum_le_sum_of_subset fun inner among => ?_
  rw [List.mem_toFinset] at among
  obtain ⟨array, rfl⟩ := graph.object_of_walked levels [] root inner among
  have way := (graph.off_of_walked (.object array) levels [] array (reached array rfl) inner among).2
  exact (graph.mem_reachable _ member inner).2
    ⟨array, rfl, Relation.ReflTransGen.mono (fun _ _ step => step.2.1) _ _ way⟩

end

/-! ### Conversions -/

/-- In worlds of some kind an engine reads the arrays of a graph as they are, and remains in these worlds, also when it
writes a value of the graph. -/
structure Seen [Surface] (clock : Clock) (graph : HeapGraph) (kept : World → Prop) : Prop where
  isArray : ∀ array ∈ graph.arrays, ∀ world, kept world → ∃ after,
    perform clock (Surface.isArray (.object array)) world = (.value true, after) ∧ kept after
  length : ∀ array ∈ graph.arrays, ∀ world, kept world → ∃ after,
    perform clock (Surface.lengthOf (.object array)) world = (.value (graph.items array).length, after) ∧ kept after
  item : ∀ array ∈ graph.arrays, ∀ index item, (graph.items array)[index]? = some item → ∀ world, kept world →
    ∃ after, perform clock (Surface.get (.object array) (.index index)) world = (.value item, after) ∧ kept after
  text : ∀ value, graph.Member value → ∀ world, kept world → ∀ text after,
    perform clock (scriptText value) world = (.value text, after) → kept after

def size (value : Value) : Nat := 1 + graph.weight deepestWalk [] value

section

variable [Surface] (clock : Clock) (graph : HeapGraph) (kept : World → Prop) (seen : graph.Seen clock kept)
include seen

theorem entryLength_seen (array : Ref) (known : array ∈ graph.arrays) (world : World) (good : kept world) :
    ∃ after, perform clock (entryLength (.object array)) world = (.value (graph.items array).length, after) ∧
      kept after := by
  obtain ⟨between, once, good⟩ := seen.length array known world good
  obtain ⟨after, again, good⟩ := seen.length array known between good
  exact ⟨after, perform_bind clock _ _ _ _ world between after once again, good⟩

theorem isArray_seen (array : Ref) (known : array ∈ graph.arrays) (world after : World) (good : kept world)
    (answer : Bool) (kind : perform clock (Surface.isArray (.object array)) world = (.value answer, after)) :
    answer = true ∧ kept after := by
  obtain ⟨after', kind', good⟩ := seen.isArray array known world good
  rw [kind] at kind'
  obtain ⟨same, rfl⟩ := Prod.mk.inj kind'
  exact ⟨Ending.value.inj same, good⟩

theorem nodes_shown (value : Value) (member : graph.Member value) (world after : World) (good : kept world)
    (ending : Ending String) (shows : perform clock (scriptText value) world = (ending, after)) (result : HostValue)
    (same : ending.map HostValue.text = .value result) : result.nodes = 1 ∧ kept after := by
  obtain ⟨text, rfl, rfl⟩ := Ending.map_eq_value _ ending result same
  exact ⟨rfl, seen.text value member world good text after shows⟩

theorem nodes_of_unfoldsFrom (path : List Ref) (array : Ref) (known : array ∈ graph.arrays) (count : Value → Nat)
    (each : ∀ item ∈ graph.items array, ∀ world result after, kept world →
      Unfolds clock path item world (.value result) after → result.nodes = count item ∧ kept after)
    (results : List HostValue) (length index : Nat) (whole : length = (graph.items array).length) (world after : World)
    (good : kept world) (unfolds : UnfoldsFrom clock path array length index world (.value results) after) :
    HostValue.itemNodes results = (((graph.items array).drop index).map count).sum ∧ kept after := by
  induction results generalizing index world with
  | nil =>
    generalize same : Ending.value ([] : List HostValue) = ending at unfolds
    cases unfolds with
    | done _ _ _ _ =>
      rw [whole, List.drop_length]
      exact ⟨rfl, good⟩
    | unreadable _ _ _ _ _ _ fault _ _ => exact absurd same.symm (Ending.fault_ne_value fault _)
    | failed _ _ _ _ _ _ _ _ fault _ _ _ => exact absurd same.symm (Ending.fault_ne_value fault _)
    | next _ _ _ _ _ _ _ _ _ _ ending _ _ _ _ =>
      obtain ⟨_, _, empty⟩ := Ending.map_eq_value _ ending [] same.symm
      cases empty
  | cons first results ih =>
    generalize same : Ending.value (first :: results) = ending at unfolds
    cases unfolds with
    | done _ _ _ _ => cases same
    | unreadable _ _ _ _ _ _ fault _ _ => exact absurd same.symm (Ending.fault_ne_value fault _)
    | failed _ _ _ _ _ _ _ _ fault _ _ _ => exact absurd same.symm (Ending.fault_ne_value fault _)
    | next _ _ _ _ item converted _ between middle _ ending more read here rest =>
      obtain ⟨found, rfl, consed⟩ := Ending.map_eq_value _ ending _ same.symm
      obtain ⟨rfl, rfl⟩ := List.cons.inj consed
      rw [whole] at more
      have there := List.getElem?_eq_getElem more
      obtain ⟨between', read', good'⟩ := seen.item array known index _ there world good
      rw [read] at read'
      obtain ⟨same, rfl⟩ := Prod.mk.inj read'
      obtain rfl := Ending.value.inj same
      obtain ⟨counted, good'⟩ := each _ (List.getElem_mem more) between converted middle good' here
      obtain ⟨others, good'⟩ := ih (index + 1) middle good' rest
      rw [HostValue.itemNodes, counted, others, List.drop_eq_getElem_cons more, List.map_cons, List.sum_cons]
      exact ⟨rfl, good'⟩

theorem nodes_of_unfolds (levels : Nat) (path : List Ref) (value : Value) (member : graph.Member value)
    (world after : World) (good : kept world) (result : HostValue) (left : path.length + levels = 128)
    (unfolds : Unfolds clock path value world (.value result) after) :
    result.nodes = 1 + graph.weight levels path value ∧ kept after := by
  have isArray := isArray_seen clock graph kept seen
  induction levels using Nat.strongRecOn generalizing path value world after result with
  | _ levels ih =>
    generalize same : Ending.value result = ending at unfolds
    cases unfolds with
    | undefined | absent | null | boolean | integer | number | text =>
      cases same
      rw [graph.weight_other levels path _ (by rintro array ⟨⟩)]
      exact ⟨rfl, good⟩
    | symbol _ _ _ _ ending shows | bigint _ _ _ _ ending shows =>
      rw [graph.weight_other levels path _ (by rintro array ⟨⟩)]
      exact nodes_shown clock graph kept seen _ member world after good ending shows result same.symm
    | unknown _ _ _ _ fault _ => exact absurd same.symm (Ending.fault_ne_value fault _)
    | object _ array _ between _ ending kind _ =>
      cases (isArray array (graph.known_of_member array member) world between good _ kind).1
    | circular _ array _ _ kind again =>
      cases same
      rw [graph.weight_again levels path array again]
      exact ⟨rfl, (isArray array (graph.known_of_member array member) world after good _ kind).2⟩
    | deep _ array _ between _ ending kind _ limit shows =>
      obtain rfl : levels = 0 := by omega
      have good := (isArray array (graph.known_of_member array member) world between good _ kind).2
      exact nodes_shown clock graph kept seen _ member between after good ending shows result same.symm
    | unmeasured _ _ _ _ _ fault _ _ _ _ => exact absurd same.symm (Ending.fault_ne_value fault _)
    | array _ array length _ between inside _ ending kind fresh limit measured items =>
      obtain ⟨found, rfl, rfl⟩ := Ending.map_eq_value _ ending result same.symm
      obtain ⟨fewer, rfl⟩ : ∃ fewer, levels = fewer + 1 := ⟨levels - 1, by omega⟩
      have known := graph.known_of_member array member
      have good := (isArray array known world between good _ kind).2
      obtain ⟨inside', measured', good⟩ := entryLength_seen clock graph kept seen array known between good
      obtain ⟨whole, rfl⟩ := Prod.mk.inj (measured.symm.trans measured')
      have each : ∀ item ∈ graph.items array, ∀ world result after, kept world →
          Unfolds clock (array :: path) item world (.value result) after →
          result.nodes = 1 + graph.weight fewer (array :: path) item ∧ kept after := by
        intro item among world result after good unfolds
        exact ih fewer (Nat.lt_succ_self fewer) (array :: path) item
          (.inr ⟨array, known, among⟩) world after good result
          (by rw [List.length_cons]; omega) unfolds
      obtain ⟨counted, good⟩ :=
        nodes_of_unfoldsFrom clock graph kept seen (array :: path) array known _ each found length 0
        (Ending.value.inj whole) inside after good items
      rw [graph.weight_enter fewer path array fresh, HostValue.nodes, counted, List.drop_zero]
      exact ⟨rfl, good⟩

omit seen in
theorem unfolds_of_converse (value : Value) (world : World) (result : HostValue) (machine : Machine) (host : Host)
    (ended : Host.converse clock (fromScript value world.machine) world.host = (.value result machine, host)) :
    ∃ after, Unfolds clock [] value world (.value result) after := by
  obtain ⟨ending, after, unfolds⟩ := exists_unfolds clock [] value world
  rw [converse_fromScript clock value world after ending unfolds] at ended
  cases ending with
  | value found =>
    cases ended
    exact ⟨after, unfolds⟩
  | thrown reason => cases ended
  | stopped reason => cases ended

theorem nodes_of_converse (value : Value) (member : graph.Member value) (world : World) (good : kept world)
    (result : HostValue) (machine : Machine) (host : Host)
    (ended : Host.converse clock (fromScript value world.machine) world.host = (.value result machine, host)) :
    result.nodes = graph.size value := by
  obtain ⟨after, unfolds⟩ := unfolds_of_converse clock value world result machine host ended
  exact (nodes_of_unfolds clock graph kept seen deepestWalk [] value member world after good result rfl unfolds).1

end

section

variable [Runtime] (clock : Clock)

theorem found_of_completed (session : Session) (found : Session.Evaluated) (result : EvalResult)
    (completed : (session.finished clock found).1 = .completed result) : found = .value result.value := by
  unfold Session.finished at completed
  by_cases late : session.host.governor.timedOut = true
  · rw [if_pos late] at completed
    cases completed
  · rw [if_neg late] at completed
    cases found <;> cases completed
    rfl

theorem converse_of_converted (session : Session) (value : Value) (result : HostValue)
    (converted : (session.converted clock value).1 = .value result) :
    ∃ machine host, Host.converse clock (fromScript value session.machine) session.host =
      (.value result machine, host) := by
  rcases ended : Host.converse clock (fromScript value session.machine) session.host with ⟨outcome, host⟩
  simp only [Session.converted, Session.run, ended] at converted
  cases outcome with
  | value found machine =>
    cases converted
    exact ⟨machine, host, rfl⟩
  | thrown reason machine => cases converted
  | stopped reason machine => cases converted

variable (graph : HeapGraph) (kept : World → Prop) (seen : graph.Seen clock kept)
include seen

theorem nodes_of_eval (session : Session) (code : String) (value : Value) (after : Session)
    (clean : code.contains '\x00' = false)
    (ran : (session.begun clock).run clock (Runtime.evaluate (Units.ofString code)) = (.value value, after))
    (member : graph.Member value) (good : kept ⟨after.machine, after.unbound.host⟩) (result : EvalResult)
    (completed : (session.eval clock code).1 = .completed result) : result.value.nodes = graph.size value := by
  have same : (session.begun clock).evaluated clock code = after.unbound.converted clock value := by
    simp only [Session.evaluated, clean, Bool.false_eq_true, if_false, ran]
  rw [Session.eval_outcome, same] at completed
  obtain ⟨machine, host, ended⟩ :=
    converse_of_converted clock _ value result.value (found_of_completed clock _ _ result completed)
  exact nodes_of_converse clock graph kept seen value member ⟨after.machine, after.unbound.host⟩
    good _ machine host ended

end

/-! ### Arrays that are given -/

open ArrayGraph (knot furnish furnish_get untouched_furnish knotRuntime knots KnotWorld knotSession)

def ofArrays (graph : ArrayGraph) : HeapGraph where
  arrays := graph.arrays
  items := graph.items
  closed := by
    intro array known inner among
    rcases graph.closed array known _ among with plain | ⟨other, known', same⟩
    · cases plain
    · cases same
      exact known'

def hollow (length : Nat) : Object := { fullArray #[] with kind := .array #[] length false }

section

variable [Engine] (machine : Machine) (ref : Ref) (length : Nat) (there : machine.heap[ref]? = some (hollow length))
include there

theorem lengthOf_hollow (bound : length ≤ Value.longest) :
    lengthOf (.object ref) machine = .done (.value length machine) := by
  have read : (Value.object ref).get lengthKey machine = .done (.value (.ofNat length) machine) := by
    refine get_of_found ref machine lengthKey
      { content := .value (.ofNat length), writable := true, enumerable := false, configurable := false } ref _ ?_ rfl
    rw [longestChain, lookup_of_there machine.heap _ 99999 ref _ there (.inr ⟨_, _, _, rfl⟩),
      own_length machine.heap _ #[] length false rfl]
    rfl
  exact (bind_value ((Value.object ref).get lengthKey) _ machine machine _ read).trans
    (toLength_ofNat length bound machine)

theorem get_hollow (methods : Array Method) (untouched : Untouched methods machine.heap) (index : Nat) :
    (Value.object ref).get (.index index) machine = .done (.value .undefined machine) := by
  obtain ⟨⟨_, above, thereObject, objectTable⟩, _, properties, thereArray, arrayTable⟩ := untouched
  refine get_of_missing ref machine (.index index) ?_
  rw [longestChain, lookup_of_there machine.heap _ 99999 ref _ there (.inr ⟨_, _, _, rfl⟩),
    own_beyond machine.heap _ #[] length index false rfl rfl]
  change lookup machine.heap (.index index) (99998 + 1) Intrinsic.arrayPrototype.ref = _
  rw [lookup_of_there machine.heap _ 99998 _ _ thereArray (.inr ⟨_, _, _, rfl⟩),
    own_beyond machine.heap _ #[] 0 index false rfl rfl]
  simp only [arrayTable.noIndex]
  change lookup machine.heap (.index index) (99997 + 1) Intrinsic.objectPrototype.ref = _
  rw [lookup_of_there machine.heap _ 99997 _ _ thereObject (.inl rfl), own_ordinary machine.heap _ _ rfl,
    objectTable.noIndex]

end

theorem unfoldsFrom_hollow (clock : Clock) (path : List Ref) (ref : Ref) (length : Nat) (world : World)
    (there : world.machine.heap[ref]? = some (hollow length)) (untouched : Untouched smallMethods world.machine.heap)
    (left index : Nat) (counted : index + left = length) :
    @UnfoldsFrom knotRuntime.toSurface clock path ref length index world
      (.value (List.replicate left .null)) world := by
  induction left generalizing index with
  | zero =>
    obtain rfl : index = length := counted
    exact @UnfoldsFrom.done knotRuntime.toSurface clock path ref index world
  | succ left ih =>
    have read := perform_done clock (@Surface.get knotRuntime.toSurface (.object ref) (.index index)) world _
      (@get_hollow (engine smallMethods 1) world.machine ref length there smallMethods untouched index)
    exact @UnfoldsFrom.next knotRuntime.toSurface clock path ref length index .undefined .null world world world world _
      (by omega) read (@Unfolds.undefined knotRuntime.toSurface clock path world)
      (ih (index + 1) (by omega))

theorem unfolds_hollow (clock : Clock) (ref : Ref) (length : Nat) (bound : length ≤ Value.longest) (world : World)
    (there : world.machine.heap[ref]? = some (hollow length)) (untouched : Untouched smallMethods world.machine.heap) :
    @Unfolds knotRuntime.toSurface clock [] (.object ref) world
      (.value (.list (List.replicate length .null))) world := by
  have measured := perform_done clock (@Surface.lengthOf knotRuntime.toSurface (.object ref)) world _
    (@lengthOf_hollow (engine smallMethods 1) world.machine ref length there bound)
  exact @Unfolds.array knotRuntime.toSurface clock [] ref length world world world world _
    (perform_done clock _ world true (isArray_of_array ref world.machine _ _ _ _ there rfl))
    List.not_mem_nil (by decide)
    (perform_bind clock _ _ _ _ world world world measured measured)
    (unfoldsFrom_hollow clock [ref] ref length world there untouched length 0 (Nat.zero_add length))

def double (count index : Nat) : Object :=
  fullArray (if index < count then #[.object (knot (index + 1)), .object (knot (index + 1))] else #[])

def tower : Nat → HostValue
  | 0 => .list []
  | levels + 1 => .list [tower levels, tower levels]

theorem nodes_tower (levels : Nat) : (tower levels).nodes + 1 = 2 ^ (levels + 1) := by
  induction levels with
  | zero => rfl
  | succ levels ih =>
    simp only [tower, HostValue.nodes, HostValue.itemNodes]
    rw [pow_succ, ← ih]
    omega

theorem nodes_hollow (length : Nat) : (HostValue.list (List.replicate length .null)).nodes = 1 + length := by
  have items (length : Nat) : HostValue.itemNodes (List.replicate length .null) = length := by
    induction length with
    | zero => rfl
    | succ length ih =>
      have one : HostValue.null.nodes = 1 := rfl
      rw [List.replicate_succ, HostValue.itemNodes, ih, one, Nat.add_comm]
  rw [HostValue.nodes, items]

theorem unfolds_knot (clock : Clock) (elements : Array Value) (short : elements.size ≤ 2) (index : Nat)
    (path : List Ref) (world : World) (there : world.machine.heap[knot index]? = some (fullArray elements))
    (above : ∀ ref ∈ path, ∃ before < index, ref = knot before) (shallow : path.length < deepestWalk)
    (items : List HostValue)
    (unfolds : @UnfoldsFrom knotRuntime.toSurface clock (knot index :: path) (knot index) elements.size 0 world
      (.value items) world) :
    @Unfolds knotRuntime.toSurface clock path (.object (knot index)) world (.value (.list items)) world := by
  have bound : elements.size ≤ Value.longest := short.trans (by decide)
  have measured := perform_done clock (@Surface.lengthOf knotRuntime.toSurface (.object (knot index))) world _
    (@lengthOf_fullArray (engine smallMethods 1) _ world.machine elements there bound)
  refine @Unfolds.array knotRuntime.toSurface clock path (knot index) elements.size world world world world _
    (perform_done clock _ world true (isArray_of_array _ world.machine _ _ _ _ there rfl)) (fun on => ?_) shallow
    (perform_bind clock _ _ _ _ world world world measured measured) unfolds
  obtain ⟨before, less, same⟩ := above _ on
  exact absurd (Nat.add_left_cancel same) (Nat.ne_of_gt less)

/-- Each of these arrays is converted twice as often as the one that holds it. The induction is on the arrays that are
left below one of them. -/
theorem unfolds_double (clock : Clock) (count : Nat) (few : count < deepestWalk) (world : World)
    (heap : world.machine.heap = furnish (count + 1) (double count)) (left index : Nat) (counted : index + left = count)
    (path : List Ref) (above : ∀ ref ∈ path, ∃ before < index, ref = knot before) (long : path.length = index) :
    @Unfolds knotRuntime.toSurface clock path (.object (knot index)) world (.value (tower left)) world := by
  have there := fun index (less : index < count + 1) => heap ▸ furnish_get (count + 1) (double count) index less
  induction left generalizing index path with
  | zero =>
    have empty : double count index = fullArray #[] := by rw [double, if_neg (by omega)]
    exact unfolds_knot clock #[] (by decide) index path world (empty ▸ there index (by omega)) above (by omega) []
      (@UnfoldsFrom.done knotRuntime.toSurface clock _ _ _ world)
  | succ left ih =>
    have both : double count index = fullArray #[.object (knot (index + 1)), .object (knot (index + 1))] := by
      rw [double, if_pos (by omega)]
    have here := both ▸ there index (by omega)
    have below := ih (index + 1) (by omega) (knot index :: path) ?_ (by rw [List.length_cons, long])
    · have read (place : Nat) (first : place < 2) := perform_done clock
        (@Surface.get knotRuntime.toSurface (.object (knot index)) (.index place)) world _
        (@get_element (engine smallMethods 1) _ world.machine _ here place (.object (knot (index + 1)))
          (by interval_cases place <;> rfl) (by rintro ⟨⟩))
      refine unfolds_knot clock _ (Nat.le_refl _) index path world here above (by omega) [tower left, tower left] ?_
      have last := @UnfoldsFrom.done knotRuntime.toSurface clock (knot index :: path) (knot index) 2 world
      have second := @UnfoldsFrom.next knotRuntime.toSurface clock _ _ 2 1 _ _ world world world world _ (by decide)
        (read 1 (by decide)) below last
      exact @UnfoldsFrom.next knotRuntime.toSurface clock _ _ 2 0 _ _ world world world world _ (by decide)
        (read 0 (by decide)) below second
    · intro ref among
      obtain rfl | later := List.mem_cons.1 among
      · exact ⟨index, Nat.lt_succ_self index, rfl⟩
      · obtain ⟨before, less, same⟩ := above ref later
        exact ⟨before, Nat.lt_succ_of_lt less, same⟩

theorem perform_of_unfolds (clock : Clock) (value : Value) (world : World) (result : HostValue)
    (unfolds : @Unfolds knotRuntime.toSurface clock [] value world (.value result) world) :
    perform clock (@fromScript knotRuntime.toSurface value) world = (.value result, world) := by
  rw [perform, @converse_fromScript knotRuntime.toSurface clock value world world _ unfolds]
  rfl

theorem seen_knots (clock : Clock) (count : Nat) (some_ : 0 < count) :
    @Seen knotRuntime.toSurface clock (ofArrays (knots count some_)) (KnotWorld count) := by
  have held := ArrayGraph.held_knots count some_ clock
  obtain ⟨isArray, length, item, -, -⟩ := id held
  refine @Seen.mk knotRuntime.toSurface clock _ _ isArray length item ?_
  intro value member world good text after written
  obtain ⟨array, known, rfl⟩ : ∃ array ∈ (knots count some_).arrays, value = .object array := by
    obtain inside | ⟨outer, known, among⟩ := member
    · exact inside
    · obtain ⟨index, less, rfl⟩ := (ArrayGraph.mem_knots count some_ outer).1 known
      have only : value ∈ (knots count some_).items (knot index) := among
      rw [ArrayGraph.knots_items] at only
      refine ⟨_, (ArrayGraph.mem_knots count some_ _).2 ⟨ArrayGraph.within count index, ?_, rfl⟩,
        List.mem_singleton.1 only⟩
      simp only [ArrayGraph.within]
      omega
  obtain ⟨index, less, rfl⟩ := (ArrayGraph.mem_knots count some_ array).1 known
  obtain ⟨reason, last, failed, -⟩ :=
    (@ArrayGraph.settles_text knotRuntime.toSurface clock _ _ held _ known world good).fails
    (ArrayGraph.knots_tangled count some_ index less)
  rw [written] at failed
  cases failed

theorem unshared_knot : (ofArrays (knots 1 (by decide))).Unshared (.object (knot 0)) := by
  have only (ref : Ref) : (ofArrays (knots 1 (by decide))).items ref = [.object (knot 0)] := by
    change [Value.object (knot (ArrayGraph.within 1 (ref - knot 0)))] = _
    rw [ArrayGraph.within, Nat.min_eq_right (Nat.zero_le _)]
  have same (ref : Ref) (reaches : (ofArrays (knots 1 (by decide))).Reaches (.object (knot 0)) ref) : ref = knot 0 := by
    obtain ⟨first, same, way⟩ := reaches
    cases way with
    | refl =>
      cases same
      rfl
    | tail _ leads =>
      rw [Leads, only, List.mem_singleton] at leads
      exact Value.object.inj leads
  intro outer outer' inner place place' reaches reaches' there there'
  rw [only] at there there'
  obtain ⟨less, -⟩ := List.getElem?_eq_some_iff.1 there
  obtain ⟨less', -⟩ := List.getElem?_eq_some_iff.1 there'
  refine ⟨(same outer reaches).trans (same outer' reaches').symm, ?_⟩
  rw [List.length_singleton] at less less'
  omega

/-! ### How large conversions are -/

section

variable (clock : Clock) (graph : HeapGraph) [Runtime] (kept : World → Prop) (seen : graph.Seen clock kept)
include seen

/-- In an engine that shows arrays as they are, the conversion of a value has one node, and one more for each item, stored
or not, of each array on each way down from the value through different arrays, of which there are as many on a way
as the walk goes down. So the nodes are bounded by the powers of the length of the longest array up to this number;
and if no array of the value is an item at two places, by all lengths together. The same holds of the value that an
evaluation completes with. -/
theorem nodes_of_conversion :
    (∀ value world result after, graph.Member value → kept world →
      perform clock (fromScript value) world = (.value result, after) → result.nodes = graph.size value) ∧
    (∀ (session : Session) (code : String) (value : Value) (after : Session) (result : EvalResult),
      code.contains '\x00' = false →
      (session.begun clock).run clock (Runtime.evaluate (Units.ofString code)) = (.value value, after) →
      graph.Member value → kept ⟨after.machine, after.unbound.host⟩ →
      (session.eval clock code).1 = .completed result → result.value.nodes = graph.size value) ∧
    (∀ value longest, (∀ array, graph.Reaches value array → (graph.items array).length ≤ longest) →
      graph.size value ≤ ∑ level ∈ Finset.range 129, longest ^ level) ∧
    (∀ value, graph.Member value → graph.Unshared value → graph.size value ≤ graph.total value + 1) := by
  refine ⟨fun value world result after member good came => ?_,
    fun session code value after result clean ran member good => ?_,
    fun value longest short => ?_, fun value member unshared => ?_⟩
  · exact nodes_of_converse clock graph kept seen value member world good result _ _
      (converse_of_perform clock (fromScript value) result world after came)
  · exact nodes_of_eval clock graph kept seen session code value after clean ran member good result
  · exact graph.weight_le_geometric value longest short deepestWalk [] value fun array same => ⟨array, same, .refl⟩
  · rw [size, Nat.add_comm]
    exact Nat.succ_le_succ (graph.weight_le_total value unshared member deepestWalk)

end

/-- An array that contains nothing but itself is converted to two nodes. -/
theorem nodes_knot :
    @Seen knotRuntime.toSurface Sandbox.stillClock (ofArrays (knots 1 (by decide))) (KnotWorld 1) ∧
    (ofArrays (knots 1 (by decide))).Member (.object (knot 0)) ∧
    (ofArrays (knots 1 (by decide))).Unshared (.object (knot 0)) ∧
    ∃ world result after, KnotWorld 1 world ∧
      perform Sandbox.stillClock (@fromScript knotRuntime.toSurface (.object (knot 0))) world = (.value result, after) ∧
      result.nodes = 2 ∧ result.nodes ≤ (ofArrays (knots 1 (by decide))).total (.object (knot 0)) + 1 := by
  have seen := seen_knots Sandbox.stillClock 1 (by decide)
  have member : (ofArrays (knots 1 (by decide))).Member (.object (knot 0)) :=
    .inl ⟨knot 0, List.mem_singleton_self _, rfl⟩
  have unshared := unshared_knot
  have good := ArrayGraph.knotWorld_session 1 Sandbox.stillClock
  obtain ⟨conversions, -, -, small⟩ :=
    @nodes_of_conversion Sandbox.stillClock (ofArrays (knots 1 (by decide))) knotRuntime (KnotWorld 1) seen
  have straight := (knots 1 (by decide)).not_sinks_of_few _ (ArrayGraph.member_knots 1 (by decide)) (by decide)
  obtain ⟨result, after, came, -⟩ := (@ArrayGraph.settles_fromScript Sandbox.stillClock _ knotRuntime _
    (ArrayGraph.held_knots 1 (by decide) Sandbox.stillClock) _ (ArrayGraph.member_knots 1 (by decide))
      _ good).converts straight
  have nodes := conversions _ _ result after member good came
  exact ⟨seen, member, unshared, _, result, after, good, came, nodes.trans rfl,
    nodes.trans_le (small _ member unshared)⟩

/-- An array of 129 items that are not stored has more than 129 nodes. Eleven arrays that hold the next one twice have
more than 129 for each of their 22 items. -/
theorem nodes_exceed :
    (∃ world result after, world.machine.heap = furnish 1 (fun _ => hollow 129) ∧
      perform Sandbox.stillClock (@fromScript knotRuntime.toSurface (.object (knot 0))) world = (.value result, after) ∧
      129 * (0 + 1) < result.nodes) ∧
    ∃ world result after, world.machine.heap = furnish 12 (double 11) ∧
      perform Sandbox.stillClock (@fromScript knotRuntime.toSurface (.object (knot 0))) world = (.value result, after) ∧
      129 * (22 + 1) < result.nodes := by
  constructor
  · have there := furnish_get 1 (fun _ => hollow 129) 0 (by decide)
    have unfolds := unfolds_hollow Sandbox.stillClock (knot 0) 129 (by decide)
      ⟨{ (default : Machine) with heap := furnish 1 fun _ => hollow 129 }, .create (.empty 0) 0⟩
        there (untouched_furnish 1 _)
    refine ⟨_, _, _, rfl, perform_of_unfolds _ _ _ _ unfolds, ?_⟩
    rw [nodes_hollow]
    decide
  · have unfolds := unfolds_double Sandbox.stillClock 11 (by decide)
      ⟨{ (default : Machine) with heap := furnish 12 (double 11) }, .create (.empty 0) 0⟩ rfl 11 0 rfl []
      (List.forall_mem_nil _) rfl
    refine ⟨_, _, _, rfl, perform_of_unfolds _ _ _ _ unfolds, ?_⟩
    have nodes := nodes_tower 11
    omega

end HeapGraph

end Marshal

end ScriptSandbox
