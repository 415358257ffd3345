import ScriptSandbox.Proofs.World

/-!
What converting a value of the script means. Arrays unfold into lists along every path from the root; an
array on its own path becomes a mark, and an array below the depth limit a text. The rules speak of the
path alone, and take the reads and texts of the engine as they come. `Marshal.fromScript` computes this
unfolding: its one stack of ancestors is the path at every moment.
-/

namespace ScriptSandbox

open Script Script.Execution

namespace Marshal

section

variable [Surface]

mutual

/-- The unfolding of a value at the end of a path of arrays, the innermost first. It starts in one world
and ends in another, with a host value or a fault. -/
inductive Unfolds (clock : Clock) : List Ref → Value → World → Ending HostValue → World → Prop
  | undefined (path : List Ref) (world : World) : Unfolds clock path .undefined world (.value .null) world
  | absent (path : List Ref) (world : World) : Unfolds clock path .absent world (.value .null) world
  | null (path : List Ref) (world : World) : Unfolds clock path .null world (.value .null) world
  | boolean (path : List Ref) (b : Bool) (world : World) :
    Unfolds clock path (.boolean b) world (.value (.boolean b)) world
  | integer (path : List Ref) (n : Int) (world : World) :
    Unfolds clock path (.integer n) world (.value (.integer n)) world
  | number (path : List Ref) (x : Float) (world : World) :
    Unfolds clock path (.number x) world (.value (.float x)) world
  /-- Texts are decoded, and what is no Unicode in them replaced. -/
  | text (path : List Ref) (content : Units) (world : World) :
    Unfolds clock path (.text content) world (.value (.text content.toText)) world
  /-- Symbols and big integers are shown. -/
  | symbol (path : List Ref) (id : Nat) (world after : World) (ending : Ending String)
    (shows : perform clock (scriptText (.symbol id)) world = (ending, after)) :
    Unfolds clock path (.symbol id) world (ending.map .text) after
  | bigint (path : List Ref) (n : Int) (world after : World) (ending : Ending String)
    (shows : perform clock (scriptText (.bigint n)) world = (ending, after)) :
    Unfolds clock path (.bigint n) world (ending.map .text) after
  | unknown (path : List Ref) (ref : Ref) (world after : World) (fault : Fault)
    (fails : perform clock (Surface.isArray (.object ref)) world = (fault.ending, after)) :
    Unfolds clock path (.object ref) world fault.ending after
  /-- Objects other than arrays are shown. -/
  | object (path : List Ref) (ref : Ref) (world between after : World) (ending : Ending String)
    (kind : perform clock (Surface.isArray (.object ref)) world = (.value false, between))
    (shows : perform clock (scriptText (.object ref)) between = (ending, after)) :
    Unfolds clock path (.object ref) world (ending.map .text) after
  /-- An array on its own path is a mark, however deep it is. -/
  | circular (path : List Ref) (ref : Ref) (world after : World)
    (kind : perform clock (Surface.isArray (.object ref)) world = (.value true, after)) (again : ref ∈ path) :
    Unfolds clock path (.object ref) world (.value (.text "[Circular]")) after
  /-- Arrays inside too many others are shown. -/
  | deep (path : List Ref) (ref : Ref) (world between after : World) (ending : Ending String)
    (kind : perform clock (Surface.isArray (.object ref)) world = (.value true, between))
    (fresh : ref ∉ path) (limit : 128 ≤ path.length)
    (shows : perform clock (scriptText (.object ref)) between = (ending, after)) :
    Unfolds clock path (.object ref) world (ending.map .text) after
  | unmeasured (path : List Ref) (ref : Ref) (world between after : World) (fault : Fault)
    (kind : perform clock (Surface.isArray (.object ref)) world = (.value true, between))
    (fresh : ref ∉ path) (limit : path.length < 128)
    (fails : perform clock (Surface.lengthOf (.object ref) >>= fun _ => Surface.lengthOf (.object ref)) between =
      (fault.ending, after)) :
    Unfolds clock path (.object ref) world fault.ending after
  /-- Any other array is the list of its items, as many as it has on entry. -/
  | array (path : List Ref) (ref : Ref) (length : Nat) (world between inside after : World)
    (ending : Ending (List HostValue))
    (kind : perform clock (Surface.isArray (.object ref)) world = (.value true, between))
    (fresh : ref ∉ path) (limit : path.length < 128)
    (measured : perform clock (Surface.lengthOf (.object ref) >>= fun _ => Surface.lengthOf (.object ref)) between =
      (.value length, inside))
    (items : UnfoldsFrom clock (ref :: path) ref length 0 inside ending after) :
    Unfolds clock path (.object ref) world (ending.map .list) after

/-- The unfolding of the items of an array from an index on, in order. A fault ends it: no later item is
looked at. -/
inductive UnfoldsFrom (clock : Clock) :
    List Ref → Ref → Nat → Nat → World → Ending (List HostValue) → World → Prop
  | done (path : List Ref) (array : Ref) (length : Nat) (world : World) :
    UnfoldsFrom clock path array length length world (.value []) world
  | unreadable (path : List Ref) (array : Ref) (length index : Nat) (world after : World) (fault : Fault)
    (more : index < length)
    (fails : perform clock (Surface.get (.object array) (.index index)) world = (fault.ending, after)) :
    UnfoldsFrom clock path array length index world fault.ending after
  | failed (path : List Ref) (array : Ref) (length index : Nat) (item : Value) (world between after : World)
    (fault : Fault) (more : index < length)
    (read : perform clock (Surface.get (.object array) (.index index)) world = (.value item, between))
    (fails : Unfolds clock path item between fault.ending after) :
    UnfoldsFrom clock path array length index world fault.ending after
  | next (path : List Ref) (array : Ref) (length index : Nat) (item : Value) (converted : HostValue)
    (world between middle after : World) (ending : Ending (List HostValue)) (more : index < length)
    (read : perform clock (Surface.get (.object array) (.index index)) world = (.value item, between))
    (first : Unfolds clock path item between (.value converted) middle)
    (rest : UnfoldsFrom clock path array length (index + 1) middle ending after) :
    UnfoldsFrom clock path array length index world (ending.map (converted :: ·)) after

end

/-! ### Every value unfolds -/

variable (clock : Clock)

theorem exists_unfoldsFrom (path : List Ref) (array : Ref) (length index : Nat) (world : World)
    (within : index ≤ length)
    (items : ∀ item world, ∃ ending after, Unfolds clock path item world ending after) :
    ∃ ending after, UnfoldsFrom clock path array length index world ending after := by
  induction left : length - index generalizing index world with
  | zero =>
    obtain rfl : index = length := by omega
    exact ⟨_, _, .done path array index world⟩
  | succ left ih =>
    have more : index < length := by omega
    rcases read : perform clock (Surface.get (.object array) (.index index)) world with ⟨ending, between⟩
    obtain ⟨item, rfl⟩ | ⟨fault, rfl⟩ := ending.value_or_fault
    · obtain ⟨ending, middle, first⟩ := items item between
      obtain ⟨converted, rfl⟩ | ⟨fault, rfl⟩ := ending.value_or_fault
      · obtain ⟨ending, after, rest⟩ := ih (index + 1) middle (by omega) (by omega)
        exact ⟨_, _, .next path array length index item converted world between middle after ending more read
          first rest⟩
      · exact ⟨_, _, .failed path array length index item world between middle fault more read first⟩
    · exact ⟨_, _, .unreadable path array length index world between fault more read⟩

theorem exists_unfolds_object (path : List Ref) (ref : Ref) (world : World)
    (inside : path.length < 128 → ∀ item world, ∃ ending after,
      Unfolds clock (ref :: path) item world ending after) :
    ∃ ending after, Unfolds clock path (.object ref) world ending after := by
  rcases kind : perform clock (Surface.isArray (.object ref)) world with ⟨ending, between⟩
  obtain ⟨isArray, rfl⟩ | ⟨fault, rfl⟩ := ending.value_or_fault
  · cases isArray with
    | false => exact ⟨_, _, .object path ref world between _ _ kind rfl⟩
    | true =>
      by_cases again : ref ∈ path
      · exact ⟨_, _, .circular path ref world between kind again⟩
      · by_cases limit : path.length < 128
        · rcases measured : perform clock (entryLength (.object ref)) between with ⟨ending, entered⟩
          obtain ⟨length, rfl⟩ | ⟨fault, rfl⟩ := ending.value_or_fault
          · obtain ⟨ending, after, items⟩ := exists_unfoldsFrom clock (ref :: path) ref length 0 entered
              (Nat.zero_le _) (inside limit)
            exact ⟨_, _, .array path ref length world between entered after ending kind again limit measured items⟩
          · exact ⟨_, _, .unmeasured path ref world between entered fault kind again limit measured⟩
        · exact ⟨_, _, .deep path ref world between _ _ kind again (Nat.le_of_not_lt limit) rfl⟩
  · exact ⟨_, _, .unknown path ref world between fault kind⟩

theorem exists_unfolds_of_inside (path : List Ref) (value : Value) (world : World)
    (inside : path.length < 128 → ∀ ref item world, ∃ ending after,
      Unfolds clock (ref :: path) item world ending after) :
    ∃ ending after, Unfolds clock path value world ending after := by
  cases value with
  | undefined => exact ⟨_, _, .undefined path world⟩
  | absent => exact ⟨_, _, .absent path world⟩
  | null => exact ⟨_, _, .null path world⟩
  | boolean b => exact ⟨_, _, .boolean path b world⟩
  | integer n => exact ⟨_, _, .integer path n world⟩
  | number x => exact ⟨_, _, .number path x world⟩
  | text content => exact ⟨_, _, .text path content world⟩
  | symbol id => exact ⟨_, _, .symbol path id world _ _ rfl⟩
  | bigint n => exact ⟨_, _, .bigint path n world _ _ rfl⟩
  | object ref => exact exists_unfolds_object clock path ref world fun limit => inside limit ref

/-- Every value unfolds at every path. The induction is on how far the path is from the depth limit. -/
theorem exists_unfolds (path : List Ref) (value : Value) (world : World) :
    ∃ ending after, Unfolds clock path value world ending after := by
  induction left : 128 - path.length generalizing path value world with
  | zero => exact exists_unfolds_of_inside clock path value world fun limit => by omega
  | succ left ih =>
    refine exists_unfolds_of_inside clock path value world fun limit ref item world => ?_
    exact ih (ref :: path) item world (by rw [List.length_cons]; omega)

theorem unfolds_of_plain (path : List Ref) (value : Value) (world : World) (result : HostValue)
    (simple : plain? value = some result) : Unfolds clock path value world (.value result) world := by
  cases value with
  | undefined =>
    cases simple
    exact .undefined path world
  | absent =>
    cases simple
    exact .absent path world
  | null =>
    cases simple
    exact .null path world
  | boolean b =>
    cases simple
    exact .boolean path b world
  | integer n =>
    cases simple
    exact .integer path n world
  | number x =>
    cases simple
    exact .number path x world
  | text content =>
    cases simple
    exact .text path content world
  | _ => cases simple

/-! ### The walk computes the unfolding -/

theorem gives_shown (value : Value) (path : List Ref) (world after : World) (ending : Ending String)
    (shows : perform clock (scriptText value) world = (ending, after)) :
    (shown value).Gives clock path world (ending.map .text) path after :=
  Walk.gives_map clock (Walk.of (scriptText value)) HostValue.text path path world after ending
    (Walk.gives_of clock (scriptText value) path world after ending shows)

def entered (depth : Nat) (ref : Ref) (ancestors : List Ref) : Walk HostValue :=
  if ancestors.contains ref then pure (.text circularText)
  else if ancestors.length < deepestWalk then Walk.inside ref (listed (fromWithin depth) (.object ref))
  else shown (.object ref)

theorem fromWithin_object (depth : Nat) (ref : Ref) :
    fromWithin (depth + 1) (.object ref) = (Walk.of (Surface.isArray (.object ref)) >>= fun isArray =>
      if isArray then Walk.ancestors >>= entered depth ref else shown (.object ref)) := rfl

section

variable (depth : Nat) (path : List Ref) (ref : Ref) (world between after : World)

theorem gives_object_shown (ending : Ending String)
    (kind : perform clock (Surface.isArray (.object ref)) world = (.value false, between))
    (shows : perform clock (scriptText (.object ref)) between = (ending, after)) :
    (fromWithin (depth + 1) (.object ref)).Gives clock path world (ending.map .text) path after := by
  rw [fromWithin_object]
  exact Walk.gives_bind clock _ _ path path path world between after false _
    (Walk.gives_of clock _ path world between _ kind) (gives_shown clock _ path between after ending shows)

/-- The stack tells the walk of an array whether it is on its own path, and how deep it is. -/
theorem gives_array (ending : Ending HostValue)
    (kind : perform clock (Surface.isArray (.object ref)) world = (.value true, between))
    (goes : (entered depth ref path).Gives clock path between ending path after) :
    (fromWithin (depth + 1) (.object ref)).Gives clock path world ending path after := by
  rw [fromWithin_object]
  refine Walk.gives_bind clock _ _ path path path world between after true _
    (Walk.gives_of clock _ path world between _ kind) ?_
  exact Walk.gives_bind clock _ _ path path path between between after path _
    (Walk.gives_ancestors clock path between) goes

theorem entered_of_mem (again : ref ∈ path) : entered depth ref path = pure (.text circularText) := by
  rw [entered, if_pos (List.contains_iff_mem.2 again)]

theorem entered_of_deep (fresh : ref ∉ path) (limit : deepestWalk ≤ path.length) :
    entered depth ref path = shown (.object ref) := by
  rw [entered, if_neg (fun found => fresh (List.contains_iff_mem.1 found)), if_neg (Nat.not_lt.2 limit)]

theorem entered_of_shallow (fresh : ref ∉ path) (limit : path.length < deepestWalk) :
    entered depth ref path = Walk.inside ref (listed (fromWithin depth) (.object ref)) := by
  rw [entered, if_neg (fun found => fresh (List.contains_iff_mem.1 found)), if_pos limit]

end

theorem gather_of_more (convert : Value → Walk HostValue) (array : Value) (length index : Nat)
    (done : List HostValue) (more : index < length) :
    gather convert array length (index, done) = (Walk.of (Surface.get array (.index index)) >>= fun item =>
      convert item >>= fun converted => pure (.inl (index + 1, converted :: done))) := by
  simp only [gather, if_neg (Nat.not_le.2 more)]

theorem gather_of_done (convert : Value → Walk HostValue) (array : Value) (length : Nat)
    (done : List HostValue) : gather convert array length (length, done) = pure (.inr done.reverse) := by
  simp only [gather, if_pos (Nat.le_refl length)]

/-- If the walk gives the unfolding of every item at a path, it gives that of the items from an index on.
The items before them stand in reverse. The induction is on the turns that the loop may still take. -/
theorem gives_of_unfoldsFrom (convert : Value → Walk HostValue) (path : List Ref) (array : Ref)
    (length index count : Nat) (done : List HostValue) (world after : World)
    (ending : Ending (List HostValue))
    (items : ∀ item world ending after, Unfolds clock path item world ending after →
      (convert item).Gives clock path world ending path after)
    (unfolds : UnfoldsFrom clock path array length index world ending after)
    (turns : length < index + count) :
    (Walk.iterate (gather convert (.object array) length) count (index, done)).Gives clock path world
      (ending.map fun rest => done.reverse ++ rest) path after := by
  induction count generalizing index done world after ending with
  -- The last turn, which finds no more items, has been counted too.
  | zero => cases unfolds <;> omega
  | succ count ih =>
    cases unfolds with
    | done _ _ _ _ =>
      refine Walk.gives_iterate_done clock _ count _ path path world world _ ?_
      rw [gather_of_done]
      simp only [List.append_nil]
      exact Walk.gives_pure clock _ path world
    | unreadable _ _ _ _ _ _ fault more fails =>
      rw [Ending.map_fault]
      refine Walk.gives_iterate_fault clock _ count _ path path world after fault ?_
      rw [gather_of_more _ _ length index done more]
      exact Walk.gives_bind_fault clock _ _ path path world after fault
        (Walk.gives_of clock _ path world after _ fails)
    | failed _ _ _ _ item _ between _ fault more read fails =>
      rw [Ending.map_fault]
      refine Walk.gives_iterate_fault clock _ count _ path path world after fault ?_
      rw [gather_of_more _ _ length index done more]
      refine Walk.gives_bind clock _ _ path path path world between after item _
        (Walk.gives_of clock _ path world between _ read) ?_
      exact Walk.gives_bind_fault clock _ _ path path between after fault
        (items item between _ after fails)
    | next _ _ _ _ item converted _ between middle _ ending more read first rest =>
      have collects := ih (index + 1) (converted :: done) middle after ending rest (by omega)
      rw [Ending.map_map]
      simp only [List.reverse_cons, List.append_assoc, List.singleton_append] at collects
      refine Walk.gives_iterate_next clock _ count _ (index + 1, converted :: done) path path path world middle
        after _ ?_ collects
      rw [gather_of_more _ _ length index done more]
      refine Walk.gives_bind clock _ _ path path path world between middle item _
        (Walk.gives_of clock _ path world between _ read) ?_
      exact Walk.gives_bind clock _ _ path path path between middle middle converted _
        (items item between _ middle first) (Walk.gives_pure clock _ path middle)

/-- If the walk gives the unfolding of values inside one more array, it gives that of a value. -/
theorem gives_of_unfolds_inside (depth : Nat) (path : List Ref) (value : Value) (world after : World)
    (ending : Ending HostValue)
    (inside : path.length < 128 → ∀ ref item world ending after,
      Unfolds clock (ref :: path) item world ending after →
      (fromWithin depth item).Gives clock (ref :: path) world ending (ref :: path) after)
    (unfolds : Unfolds clock path value world ending after) :
    (fromWithin (depth + 1) value).Gives clock path world ending path after := by
  cases unfolds with
  | undefined | absent | null | boolean | integer | number | text => exact Walk.gives_pure clock _ path world
  | symbol _ id _ _ ending shows => exact gives_shown clock (.symbol id) path world after ending shows
  | bigint _ n _ _ ending shows => exact gives_shown clock (.bigint n) path world after ending shows
  | unknown _ ref _ _ fault fails =>
    rw [fromWithin_object]
    exact Walk.gives_bind_fault clock _ _ path path world after fault
      (Walk.gives_of clock _ path world after _ fails)
  | object _ ref _ between _ ending kind shows =>
    exact gives_object_shown clock depth path ref world between after ending kind shows
  | circular _ ref _ _ kind again =>
    refine gives_array clock depth path ref world after after _ kind ?_
    rw [entered_of_mem depth path ref again]
    exact Walk.gives_pure clock _ path after
  | deep _ ref _ between _ ending kind fresh limit shows =>
    refine gives_array clock depth path ref world between after _ kind ?_
    rw [entered_of_deep depth path ref fresh limit]
    exact gives_shown clock _ path between after ending shows
  | unmeasured _ ref _ between _ fault kind fresh limit fails =>
    refine gives_array clock depth path ref world between after _ kind ?_
    rw [entered_of_shallow depth path ref fresh limit]
    refine Walk.gives_inside clock ref _ path between after _ ?_
    exact Walk.gives_bind_fault clock _ _ _ _ between after fault
      (Walk.gives_of clock _ (ref :: path) between after _ fails)
  | array _ ref length _ between start _ ending kind fresh limit measured items =>
    have collected := gives_of_unfoldsFrom clock (fromWithin depth) (ref :: path) ref length 0 (length + 1) []
      start after ending (inside limit ref) items (by omega)
    simp only [List.reverse_nil, List.nil_append, Ending.map_id] at collected
    refine gives_array clock depth path ref world between after _ kind ?_
    rw [entered_of_shallow depth path ref fresh limit]
    refine Walk.gives_inside clock ref _ path between after _ ?_
    refine Walk.gives_bind clock _ _ _ (ref :: path) _ between start after length _
      (Walk.gives_of clock _ (ref :: path) between start _ measured) ?_
    exact Walk.gives_map clock _ HostValue.list _ _ start after ending collected

/-- The walk of a value gives its unfolding, and hands back the stack that it was given, however it ends;
so at every moment the stack is the path from the root. The depth that is left and the length of the path
add up to the limit. -/
theorem gives_of_unfolds (depth : Nat) (path : List Ref) (value : Value) (world after : World)
    (ending : Ending HostValue) (left : path.length + depth = 128)
    (unfolds : Unfolds clock path value world ending after) :
    (fromWithin (depth + 1) value).Gives clock path world ending path after := by
  induction depth generalizing path value world ending after with
  | zero =>
    exact gives_of_unfolds_inside clock 0 path value world after ending (fun limit => by omega) unfolds
  | succ depth ih =>
    refine gives_of_unfolds_inside clock (depth + 1) path value world after ending ?_ unfolds
    intro limit ref item world ending after within
    exact ih (ref :: path) item world after ending (by rw [List.length_cons]; omega) within

theorem converse_fromScript (value : Value) (world after : World) (ending : Ending HostValue)
    (unfolds : Unfolds clock [] value world ending after) :
    Host.converse clock (fromScript value world.machine) world.host =
      (ending.outcome after.machine, after.host) := by
  have walked := gives_of_unfolds clock deepestWalk [] value world after ending rfl unfolds
  refine (converse_bind_value clock (fromWithin (deepestWalk + 1) value []) _ (ending, []) world after
    walked).trans ?_
  cases ending <;> rfl

/-! ### What unfolds is bounded -/

theorem unfoldsFrom_value_cases (path : List Ref) (array : Ref) (length index : Nat)
    (items : List HostValue) (world after : World)
    (unfolds : UnfoldsFrom clock path array length index world (.value items) after) :
    (items = [] ∧ index = length) ∨ ∃ item converted rest between middle, items = converted :: rest ∧
      Unfolds clock path item between (.value converted) middle ∧
      UnfoldsFrom clock path array length (index + 1) middle (.value rest) after := by
  generalize same : (Ending.value items : Ending (List HostValue)) = ending at unfolds
  cases unfolds with
  | done _ _ _ _ =>
    cases same
    exact .inl ⟨rfl, rfl⟩
  | unreadable _ _ _ _ _ _ fault _ _ => exact absurd same.symm (Ending.fault_ne_value fault items)
  | failed _ _ _ _ _ _ _ _ fault _ _ _ => exact absurd same.symm (Ending.fault_ne_value fault items)
  | next _ _ _ _ item converted _ between middle _ ending _ _ first rest =>
    obtain ⟨found, rfl, consed⟩ := Ending.map_eq_value _ ending items same.symm
    exact .inr ⟨item, converted, found, between, middle, consed.symm, first, rest⟩

theorem all_of_unfoldsFrom (kind : HostValue → Prop) (path : List Ref) (array : Ref) (length index : Nat)
    (items : List HostValue) (world after : World)
    (each : ∀ item world result after, Unfolds clock path item world (.value result) after → kind result)
    (unfolds : UnfoldsFrom clock path array length index world (.value items) after) :
    (∀ item ∈ items, kind item) ∧ index + items.length = length := by
  induction items generalizing index world with
  | nil =>
    obtain ⟨-, rfl⟩ | ⟨_, _, _, _, _, consed, -, -⟩ :=
      unfoldsFrom_value_cases clock path array length index [] world after unfolds
    · exact ⟨nofun, rfl⟩
    · cases consed
  | cons converted items ih =>
    obtain ⟨empty, -⟩ | ⟨item, _, _, between, middle, consed, first, rest⟩ :=
      unfoldsFrom_value_cases clock path array length index (converted :: items) world after unfolds
    · cases empty
    · cases consed
      obtain ⟨all, counted⟩ := ih (index + 1) middle rest
      refine ⟨List.forall_mem_cons.2 ⟨each item between converted middle first, all⟩, ?_⟩
      rw [List.length_cons]
      omega

end

end Marshal

/-- A value of at most so many lists inside each other, over nothing, booleans, numbers and texts. -/
inductive HostValue.Nests : Nat → HostValue → Prop
  | null (levels : Nat) : Nests levels .null
  | boolean (levels : Nat) (value : Bool) : Nests levels (.boolean value)
  | integer (levels : Nat) (value : Int) : Nests levels (.integer value)
  | float (levels : Nat) (value : Float) : Nests levels (.float value)
  | text (levels : Nat) (value : String) : Nests levels (.text value)
  | list (levels : Nat) (items : List HostValue) (each : ∀ item ∈ items, Nests levels item) :
    Nests (levels + 1) (.list items)

namespace Marshal

theorem nests_shown (levels : Nat) (ending : Ending String) (result : HostValue)
    (same : ending.map HostValue.text = .value result) : result.Nests levels := by
  obtain ⟨text, -, rfl⟩ := Ending.map_eq_value _ ending result same
  exact .text levels text

variable [Surface] (clock : Clock)

/-- What a value unfolds into has no more lists inside each other than the path leaves. -/
theorem nests_of_unfolds (levels : Nat) (path : List Ref) (value : Value) (world after : World)
    (result : HostValue) (left : path.length + levels = 128)
    (unfolds : Unfolds clock path value world (.value result) after) : result.Nests levels := by
  induction levels using Nat.strongRecOn generalizing path value world after result with
  | _ levels ih =>
    generalize same : Ending.value result = ending at unfolds
    cases unfolds with
    | undefined | absent | null =>
      cases same
      exact .null levels
    | boolean _ b =>
      cases same
      exact .boolean levels b
    | integer _ n =>
      cases same
      exact .integer levels n
    | number _ x =>
      cases same
      exact .float levels x
    | text _ content =>
      cases same
      exact .text levels content.toText
    | symbol _ _ _ _ ending _ | bigint _ _ _ _ ending _ => exact nests_shown levels ending result same.symm
    | unknown _ _ _ _ fault _ => exact absurd same.symm (Ending.fault_ne_value fault _)
    | object _ _ _ _ _ ending _ _ => exact nests_shown levels ending result same.symm
    | circular _ _ _ _ _ _ =>
      cases same
      exact .text levels "[Circular]"
    | deep _ _ _ _ _ ending _ _ _ _ => exact nests_shown levels ending result same.symm
    | unmeasured _ _ _ _ _ fault _ _ _ _ => exact absurd same.symm (Ending.fault_ne_value fault _)
    | array _ ref length _ _ start _ ending _ _ limit _ items =>
      obtain ⟨found, rfl, rfl⟩ := Ending.map_eq_value _ ending result same.symm
      obtain ⟨fewer, rfl⟩ : ∃ fewer, levels = fewer + 1 := ⟨levels - 1, by omega⟩
      refine .list fewer found (all_of_unfoldsFrom clock _ (ref :: path) ref length 0 found start after ?_ items).1
      intro item world result after within
      exact ih fewer (Nat.lt_succ_self fewer) (ref :: path) item world after result
        (by rw [List.length_cons]; omega) within

/-- Converting a value of the script computes its unfolding along every path, in any world and whatever
the engine's reads and texts do: there always is one, a conversion ends as it says and in the same world, a
result is nested no deeper than the limit, and a list has as many items as the array had on entry. The text
of a value is the engine's, but for symbols, which are shown by their description. -/
theorem fromScript_unfolds (value : Value) (world : World) :
    (∃ ending after, Unfolds clock [] value world ending after) ∧
    (∀ ending after, Host.converse clock (fromScript value world.machine) world.host =
      (ending.outcome after.machine, after.host) ↔ Unfolds clock [] value world ending after) ∧
    (∀ result after, Unfolds clock [] value world (.value result) after → result.Nests 128) ∧
    (∀ path array length items before after,
      UnfoldsFrom clock path array length 0 before (.value items) after → items.length = length) ∧
    (∀ other : Value, (∀ id, other ≠ .symbol id) →
      scriptText other = (do return (← Surface.toUnits other).toText) ∧ scriptTextFrom 999 other = scriptText other) ∧
    (∀ id, scriptText (.symbol id) = do
      match ← Surface.get (.symbol id) (.ofString "description") with
      | .undefined => return "Symbol()"
      | description => return "Symbol(" ++ (← scriptTextFrom 999 description) ++ ")") := by
  refine ⟨exists_unfolds clock [] value world, fun ending after => ⟨fun computed => ?_, ?_⟩, ?_, ?_, ?_, ?_⟩
  -- A conversion has one end, so the unfolding that there is must be the one it computes.
  · obtain ⟨ending', after', unfolds⟩ := exists_unfolds clock [] value world
    rw [converse_fromScript clock value world after' ending' unfolds] at computed
    obtain ⟨sameOutcome, sameHost⟩ := Prod.mk.inj computed
    obtain ⟨rfl, sameMachine⟩ := Ending.outcome_inj _ _ _ _ sameOutcome
    obtain rfl : after' = after := by
      cases after'
      cases after
      cases sameMachine
      cases sameHost
      rfl
    exact unfolds
  · exact converse_fromScript clock value world after ending
  · intro result after unfolds
    exact nests_of_unfolds clock 128 [] value world after result rfl unfolds
  · intro path array length items before after unfolds
    have counted := (all_of_unfoldsFrom clock (fun _ => True) path array length 0 items before after
      (fun _ _ _ _ _ => trivial) unfolds).2
    omega
  · intro other noSymbol
    cases other with
    | symbol id => exact absurd rfl (noSymbol id)
    | _ => exact ⟨rfl, rfl⟩
  · exact fun id => rfl

end Marshal

end ScriptSandbox
