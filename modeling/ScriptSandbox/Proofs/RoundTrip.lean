import ScriptSandbox.Proofs.Returning

/-!
The round trip of host values: into a script and back. In a realm whose prototypes are untouched, every value for
which there is memory comes back in its normal form, and whatever came back once comes back as it is.
-/

namespace ScriptSandbox

open Script Script.Execution

namespace Script

/-- The prototypes rely on themselves and on functions of the library, and on nothing else. -/
theorem Untouched.of_kept (methods methods' : Array Method) (before after : Array Object)
    (untouched : Untouched methods before)
    (known : ∀ (id : Nat) (method : Method), methods[id]? = some method → methods'[id]? = some method)
    (kept : ∀ ref object, before[ref]? = some object →
      ref = Intrinsic.objectPrototype.ref ∨ ref = Intrinsic.arrayPrototype.ref ∨
        (∃ id constructs data, object.kind = .native id constructs data) → after[ref]? = some object) :
    Untouched methods' after := by
  obtain ⟨⟨extensible, properties, there, table⟩, extensible', properties', there', table'⟩ := untouched
  have native (method : Method) (value : Value) (native : IsNative methods before method value) :
      IsNative methods' after method value := by
    obtain ⟨ref, object, id, constructs, data, same, there, kind, found⟩ := native
    exact ⟨ref, object, id, constructs, data, same, kept ref object there (.inr (.inr ⟨id, constructs, data, kind⟩)), kind,
      known id method found⟩
  refine ⟨⟨extensible, properties, kept _ _ there (.inl rfl), ?_⟩, extensible', properties', kept _ _ there' (.inr (.inl rfl)),
    ?_⟩
  · obtain ⟨text, holds, known⟩ := table.text
    obtain ⟨self, holds', known'⟩ := table.self
    obtain ⟨property, getter, setter, found, content, known''⟩ := table.parent
    exact ⟨⟨text, holds, native _ _ known⟩, ⟨self, holds', native _ _ known'⟩,
      ⟨property, getter, setter, found, content, native _ _ known''⟩, table.plain, table.without, table.noIndex⟩
  · obtain ⟨text, holds, known⟩ := table'.text
    exact ⟨⟨text, holds, native _ _ known⟩, table'.join, table'.plain, table'.without, table'.noIndex⟩

theorem Untouched.kept (methods : Array Method) (realm heap : Array Object) (top : Ref) (untouched : Untouched methods realm)
    (furnished : Furnished realm heap top) : Untouched methods heap :=
  untouched.of_kept methods methods realm heap (fun _ _ found => found) fun ref object there _ =>
    (furnished.kept ref (lt_of_there realm ref object there)).trans there

theorem furnished_self (heap : Array Object) : Furnished heap heap heap.size :=
  ⟨⟨Nat.le_refl _, Nat.le_refl _⟩, fun _ _ => rfl, fun _ low high => absurd high (Nat.not_lt.2 low)⟩

end Script

/-- A machine has room for a value of the host. No machine has more memory than the largest length. -/
structure Room (machine : Machine) (value : HostValue) : Prop where
  memory : Affords machine value.memory
  length : value.memory ≤ Value.longest

namespace Marshal

def back [Engine] (value : HostValue) : Execution HostValue := do @fromScript Surface.ofEngine (← toScript value)

theorem back_eq [Engine] (value : HostValue) (machine : Machine) :
    back value machine = (toScript value machine).bind (follow (@fromScript Surface.ofEngine)) := bind_eq _ _ _

theorem perform_back [Engine] (clock : Clock) (value : HostValue) (result : Value) (world after : World) (made : Machine)
    (ending : Ending HostValue) (converted : toScript value world.machine = .done (.value result made))
    (unfolds : @Unfolds Surface.ofEngine clock [] result ⟨made, world.host⟩ ending after) :
    ∃ last, perform clock (back value) world = (ending, last) ∧ last.host = after.host ∧
      last.machine.heap = after.machine.heap := by
  have first : Host.converse clock (toScript value world.machine) world.host = (.value result made, world.host) := by
    rw [converted]
    rfl
  have whole : Host.converse clock (back value world.machine) world.host = (ending.outcome after.machine, after.host) :=
    (converse_bind_value clock (toScript value) _ result world ⟨made, world.host⟩ first).trans
      (@converse_fromScript Surface.ofEngine clock result ⟨made, world.host⟩ after ending unfolds)
  rw [perform, whole]
  cases ending <;> exact ⟨_, rfl, rfl, rfl⟩

section

variable (methods : Array Method) (depth : Nat) (clock : Clock)

theorem back_of_returns (value : HostValue) (world : World) (untouched : Untouched methods world.machine.heap)
    (returns : value.Returns deepestWalk) (room : Room world.machine value) :
    ∃ after, perform clock (@back (engine methods (depth + 1)) value) world = (.value value.norm, after) ∧
      after.host = world.host ∧ Untouched methods after.machine.heap := by
  have ends := converts methods depth world.machine.heap untouched value world.machine (furnished_self _)
  generalize converted : @toScript (engine methods (depth + 1)) value world.machine = dialogue at ends
  cases ends with
  | value result made holds =>
    obtain ⟨built, -, represents⟩ := holds
    have unfolds := unfolds_of_represents methods depth clock world.machine.heap ⟨made, world.host⟩ built.furnished untouched
      deepestWalk value returns [] world.machine.heap.size result represents (Nat.le_refl _) nofun (Nat.le_of_eq rfl)
      room.length
    have came := @perform_back (engine methods (depth + 1)) clock value result world ⟨made, world.host⟩ made
      (.value value.norm) converted unfolds
    obtain ⟨after, performed, host, heap⟩ := came
    refine ⟨after, performed, host, ?_⟩
    rw [heap]
    exact untouched.kept methods world.machine.heap made.heap _ built.furnished
  | thrown reason made fails => exact absurd room.memory fails
  | stopped reason made fails => exact absurd room.memory fails

theorem settled_of_back (value result : HostValue) (world after : World) (untouched : Untouched methods world.machine.heap)
    (came : perform clock (@back (engine methods (depth + 1)) value) world = (.value result, after)) :
    Settled deepestWalk result ∧ Untouched methods after.machine.heap := by
  have ends := converts methods depth world.machine.heap untouched value world.machine (furnished_self _)
  have opened := @back_eq (engine methods (depth + 1)) value world.machine
  generalize converted : @toScript (engine methods (depth + 1)) value world.machine = dialogue at ends opened
  cases ends with
  | value found made holds =>
    obtain ⟨built, datum, -⟩ := holds
    obtain ⟨ending, last, unfolds⟩ := @exists_unfolds (surface methods (depth + 1)) clock [] found ⟨made, world.host⟩
    obtain ⟨last', performed, -, heap⟩ := @perform_back (engine methods (depth + 1)) clock value found world last made
      ending converted unfolds
    rw [performed] at came
    obtain ⟨furnished, settled⟩ := @settled_of_unfolds (surface methods (depth + 1)) clock world.machine.heap made.heap.size
      (surfaceKeeps methods (depth + 1) world.machine.heap made.heap.size untouched) deepestWalk [] found ⟨made, world.host⟩
      last ending rfl built.furnished (.inr datum) unfolds
    obtain ⟨same, rfl⟩ := Prod.mk.inj came
    refine ⟨settled result same, ?_⟩
    rw [heap]
    exact untouched.kept methods world.machine.heap last.machine.heap _ furnished
  | thrown reason made fails =>
    rw [perform, opened] at came
    cases came
  | stopped reason made fails =>
    rw [perform, opened] at came
    cases came

end

theorem log2_lt (n : Int) (least : -0x8000000000000000 ≤ n) (greatest : n < 0x8000000000000000) :
    n.natAbs.log2 < 1022 := by
  by_cases zero : n.natAbs = 0
  · rw [zero]
    decide
  · exact Nat.lt_trans ((Nat.log2_lt zero).2 (show n.natAbs < 2 ^ 64 by omega)) (by decide)

/-- The round trip of host values in a realm whose prototypes no script has changed, whatever the engine's library is
otherwise and however deeply its functions may call each other. A value of at most 128 lists inside each other, whose
maps outside of other maps are tidy, comes back in its normal form if there is memory for it. Whatever came back of any
value comes back as it is, in this realm or another. Integers of 64 bits that do not fit 32 become the nearest double,
and whether a double is whole is judged by its exact value. -/
theorem back_norm (methods : Array Method) (depth : Nat) (clock : Clock) (world : World)
    (untouched : Untouched methods world.machine.heap) :
    (∀ value : HostValue, value.Returns 128 → Room world.machine value → ∃ after,
      perform clock (@back (engine methods (depth + 1)) value) world = (.value value.norm, after) ∧
        after.host = world.host ∧ Untouched methods after.machine.heap) ∧
    (∀ (value result : HostValue) (after : World),
      perform clock (@back (engine methods (depth + 1)) value) world = (.value result, after) →
        Untouched methods after.machine.heap ∧ ∀ later : World, Untouched methods later.machine.heap →
          Room later.machine result → ∃ last,
            perform clock (@back (engine methods (depth + 1)) result) later = (.value result, last)) ∧
    (∀ n : Int, -0x8000000000000000 ≤ n → n < 0x8000000000000000 → ∃ nearest,
      Double.value? (Double.ofInt n) = some nearest ∧
        ∀ other exact, Double.value? other = some exact → |nearest - n| ≤ |exact - n|) ∧
    (∀ (x : Float) (n : Int), Double.whole? x = some n ↔ Double.value? x = some (n : ℚ)) := by
  refine ⟨fun value returns room => back_of_returns methods depth clock value world untouched returns room, ?_, ?_,
    Double.whole?_iff⟩
  · intro value result after came
    obtain ⟨⟨returns, same⟩, untouched'⟩ := settled_of_back methods depth clock value result world after untouched came
    refine ⟨untouched', fun later unchanged room => ?_⟩
    obtain ⟨last, performed, -⟩ := back_of_returns methods depth clock result later unchanged returns room
    rw [same] at performed
    exact ⟨last, performed⟩
  · exact fun n least greatest => Double.ofInt_nearest n (log2_lt n least greatest)

/-! ### A small realm -/

def smallMethods : Array Method :=
  #[Library.objectTextMethod, Library.objectValueMethod, Library.arrayTextMethod, Library.setParent, Library.joinMethod]

def smallFunction (id : Nat) : Value := .object (Intrinsic.count + id)

def smallObjectTable : Properties :=
  ((Properties.empty.insert toStringKey (.hidden (smallFunction 0))).insert valueOfKey (.hidden (smallFunction 1))).insert
    protoKey { content := .accessor .undefined (smallFunction 3), writable := false, enumerable := false, configurable := true }

def smallArrayTable : Properties :=
  (Properties.empty.insert toStringKey (.hidden (smallFunction 2))).insert joinKey (.hidden Intrinsic.arrayJoin.value)

def smallObject (ref : Nat) : Object :=
  if ref = Intrinsic.objectPrototype.ref then
    { kind := .ordinary, parent := none, extensible := true, properties := smallObjectTable }
  else if ref = Intrinsic.arrayPrototype.ref then
    { kind := .array #[] 0 false, parent := some Intrinsic.objectPrototype.ref, extensible := true
      properties := smallArrayTable }
  else if ref = Intrinsic.arrayJoin.ref then Object.create (.native 4 false #[]) (some Intrinsic.functionPrototype.ref)
  else if ref < Intrinsic.count then Object.create .ordinary (some Intrinsic.objectPrototype.ref)
  else Object.create (.native (ref - Intrinsic.count) false #[]) (some Intrinsic.functionPrototype.ref)

theorem range_get (count : Nat) (object : Ref → Object) (ref : Ref) (less : ref < count) :
    ((Array.range count).map object)[ref]? = some (object ref) := by
  rw [Array.getElem?_map, Array.getElem?_range, if_pos less]
  rfl

def smallHeap : Array Object := (Array.range (Intrinsic.count + 4)).map smallObject

theorem smallHeap_get (ref : Nat) (less : ref < Intrinsic.count + 4) : smallHeap[ref]? = some (smallObject ref) :=
  range_get _ smallObject ref less

theorem isNative_small (id : Nat) (method : Method) (bound : id < 4) (found : smallMethods[id]? = some method) :
    IsNative smallMethods smallHeap method (smallFunction id) := by
  have beyond (intrinsic : Intrinsic) (within : intrinsic.ref < Intrinsic.count) :
      ¬Intrinsic.count + id = intrinsic.ref :=
    Nat.ne_of_gt (Nat.lt_of_lt_of_le within (Nat.le_add_right _ _))
  have object : smallObject (Intrinsic.count + id) =
      Object.create (.native id false #[]) (some Intrinsic.functionPrototype.ref) := by
    rw [smallObject, if_neg (beyond .objectPrototype (by decide)), if_neg (beyond .arrayPrototype (by decide)),
      if_neg (beyond .arrayJoin (by decide)), if_neg (by omega), Nat.add_sub_cancel_left]
  exact ⟨Intrinsic.count + id, _, id, false, #[], rfl, smallHeap_get _ (by omega), by rw [object]; rfl, found⟩

theorem find?_smallObjectTable (key : Key) : smallObjectTable.find? key =
    if protoKey = key then some { content := .accessor .undefined (smallFunction 3), writable := false
                                  enumerable := false, configurable := true }
    else if valueOfKey = key then some (.hidden (smallFunction 1))
    else if toStringKey = key then some (.hidden (smallFunction 0)) else none := by
  have first := Properties.sound_insert _ toStringKey (.hidden (smallFunction 0)) Properties.sound_empty
  have second := Properties.sound_insert _ valueOfKey (.hidden (smallFunction 1)) first
  rw [smallObjectTable, Properties.find?_insert _ _ key _ second, Properties.find?_insert _ _ key _ first,
    Properties.find?_single]

theorem find?_smallArrayTable (key : Key) : smallArrayTable.find? key =
    if joinKey = key then some (.hidden Intrinsic.arrayJoin.value)
    else if toStringKey = key then some (.hidden (smallFunction 2)) else none := by
  have first := Properties.sound_insert _ toStringKey (.hidden (smallFunction 2)) Properties.sound_empty
  rw [smallArrayTable, Properties.find?_insert _ _ key _ first, Properties.find?_single]

theorem objectTable_small : ObjectTable smallMethods smallHeap smallObjectTable := by
  refine ⟨⟨smallFunction 0, ⟨.hidden (smallFunction 0), ?_, rfl⟩, isNative_small 0 _ (by decide) rfl⟩,
    ⟨smallFunction 1, ⟨.hidden (smallFunction 1), ?_, rfl⟩, isNative_small 1 _ (by decide) rfl⟩, ?_, ?_, ?_, ?_⟩
  · rw [find?_smallObjectTable, if_neg (by decide +kernel), if_neg (by decide +kernel), if_pos rfl]
  · rw [find?_smallObjectTable, if_neg (by decide +kernel), if_pos rfl]
  · exact ⟨_, _, smallFunction 3, (find?_smallObjectTable protoKey).trans (if_pos rfl), rfl,
      isNative_small 3 _ (by decide) rfl⟩
  · intro text property other found
    rw [find?_smallObjectTable, if_neg other.symm] at found
    split at found
    · cases found
      exact ⟨rfl, _, rfl⟩
    · split at found <;> cases found
      exact ⟨rfl, _, rfl⟩
  · intro key among
    have apart : protoKey ≠ key ∧ valueOfKey ≠ key ∧ toStringKey ≠ key := by
      fin_cases among <;> decide +kernel
    rw [find?_smallObjectTable, if_neg apart.1, if_neg apart.2.1, if_neg apart.2.2]
  · intro n
    have named : valueOfKey = .name (Units.ofString "valueOf") := by decide +kernel
    rw [find?_smallObjectTable, protoKey_eq, toStringKey_eq, named, if_neg nofun, if_neg nofun, if_neg nofun]

theorem arrayTable_small : ArrayTable smallMethods smallHeap smallArrayTable := by
  refine ⟨⟨smallFunction 2, ⟨.hidden (smallFunction 2), ?_, rfl⟩, isNative_small 2 _ (by decide) rfl⟩,
    ⟨.hidden Intrinsic.arrayJoin.value, ?_, rfl⟩, ?_, ?_, ?_⟩
  · rw [find?_smallArrayTable, if_neg (by decide +kernel), if_pos rfl]
  · rw [find?_smallArrayTable, if_pos rfl]
  · intro text property found
    rw [find?_smallArrayTable] at found
    split at found
    · cases found
      exact ⟨rfl, _, rfl⟩
    · split at found <;> cases found
      exact ⟨rfl, _, rfl⟩
  · intro key among
    have apart : joinKey ≠ key ∧ toStringKey ≠ key := by
      fin_cases among <;> decide +kernel
    rw [find?_smallArrayTable, if_neg apart.1, if_neg apart.2]
  · intro n
    have named : joinKey = .name (Units.ofString "join") := by decide +kernel
    rw [find?_smallArrayTable, toStringKey_eq, named, if_neg nofun, if_neg nofun]

theorem untouched_small : Untouched smallMethods smallHeap :=
  ⟨⟨true, smallObjectTable, smallHeap_get _ (by decide), objectTable_small⟩,
    true, smallArrayTable, smallHeap_get _ (by decide), arrayTable_small⟩

def smallWorld : World :=
  ⟨{ (default : Machine) with heap := smallHeap, limit := some 1000 }, Host.create (.empty 0) 0⟩

def sample : HostValue :=
  .list [.integer 5000000000, .float (Double.ofInt 7), .symbol "\x00𝄞", .list [.map [(.text "a", .null)]]]

def sampleBack : HostValue :=
  .list [.float (Double.ofInt 5000000000), .integer 7, .text "\x00𝄞", .list [.text "[object Object]"]]

theorem norm_sample : sample.norm = sampleBack := by
  have whole : HostValue.normFloat (Double.ofInt 7) = .integer 7 := by
    rw [HostValue.normFloat, Double.whole?_ofInt_short 7 (by decide)]
    rfl
  change HostValue.list [_, HostValue.normFloat (Double.ofInt 7), _, _] = _
  rw [whole]
  rfl

theorem returns_sample : sample.Returns 128 := by
  refine .list 127 _ fun item among => ?_
  fin_cases among
  · exact .integer 127 _
  · exact .float 127 _
  · exact .symbol 127 _
  · refine .list 126 _ fun item among => ?_
    fin_cases among
    refine .map 126 _ fun entry among => ?_
    fin_cases among
    decide

theorem room_small (value : HostValue) (bound : value.memory ≤ 1000) : Room smallWorld.machine value := by
  refine ⟨fun limit limited => ?_, Nat.le_trans bound (by decide)⟩
  rw [← Option.some.inj limited]
  exact (Nat.zero_add _).trans_le bound

/-- The value comes back, and what came back does again. -/
theorem back_norm_sample :
    Untouched smallMethods smallWorld.machine.heap ∧ sample.Returns 128 ∧ Room smallWorld.machine sample ∧
      Room smallWorld.machine sampleBack ∧ ∃ after last,
        perform { passing := fun _ _ => 0, epochMs := 0 } (@back (engine smallMethods 1) sample) smallWorld =
          (.value sampleBack, after) ∧
        perform { passing := fun _ _ => 0, epochMs := 0 } (@back (engine smallMethods 1) sampleBack) smallWorld =
          (.value sampleBack, last) := by
  have room := room_small sample (by decide +kernel)
  have room' := room_small sampleBack (by decide +kernel)
  obtain ⟨comes, stays, -⟩ := back_norm smallMethods 0 { passing := fun _ _ => 0, epochMs := 0 } smallWorld untouched_small
  obtain ⟨after, performed, -⟩ := comes sample returns_sample room
  rw [norm_sample] at performed
  obtain ⟨-, again⟩ := stays sample sampleBack after performed
  obtain ⟨last, performed'⟩ := again smallWorld untouched_small room'
  exact ⟨untouched_small, returns_sample, room, room', after, last, performed, performed'⟩

end Marshal

end ScriptSandbox
