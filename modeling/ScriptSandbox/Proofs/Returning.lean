import ScriptSandbox.Proofs.Reading

/-!
Host values that go into a script and come back. Numbers come back in the kind that the engine keeps them in,
lists item by item, and everything else as a text; what came back once comes back as it is.
-/

namespace ScriptSandbox

open Script Script.Execution

namespace HostValue

/-- A double that comes back is the integer it is, if this fits 32 bits and the double is not negative zero. -/
def normFloat (x : Float) : HostValue :=
  match Double.whole? x with
  | some n => if fitsInteger n && !(n == 0 && Double.isNegative x) then .integer n else .float x
  | none => .float x

mutual

def norm : HostValue → HostValue
  | .null => .null
  | .boolean b => .boolean b
  | .integer n => if fitsInteger n then .integer n else .float (Double.ofInt n)
  | .float x => normFloat x
  | .text content => .text content
  | .symbol name => .text name
  | .foreign shown => .text shown
  | .list items => .list (normItems items)
  | .map _ => .text "[object Object]"

def normItems : List HostValue → List HostValue
  | [] => []
  | item :: rest => norm item :: normItems rest

end

/-- A value of at most so many lists inside each other, whose maps outside of other maps are tidy. -/
inductive Returns : Nat → HostValue → Prop
  | null (levels : Nat) : Returns levels .null
  | boolean (levels : Nat) (b : Bool) : Returns levels (.boolean b)
  | integer (levels : Nat) (n : Int) : Returns levels (.integer n)
  | float (levels : Nat) (x : Float) : Returns levels (.float x)
  | text (levels : Nat) (content : String) : Returns levels (.text content)
  | symbol (levels : Nat) (name : String) : Returns levels (.symbol name)
  | foreign (levels : Nat) (shown : String) : Returns levels (.foreign shown)
  | list (levels : Nat) (items : List HostValue) (each : ∀ item ∈ items, Returns levels item) :
    Returns (levels + 1) (.list items)
  | map (levels : Nat) (entries : List (HostValue × HostValue)) (tidy : Tidy entries) : Returns levels (.map entries)

/-! ### Numbers -/

theorem plain?_ofFloat (x : Float) : Marshal.plain? (Value.ofFloat x) = some (normFloat x) := by
  rw [Value.ofFloat, normFloat]
  cases whole : Double.whole? x with
  | none => rfl
  | some n =>
    have same : (n == 0 && x.toBits != 0) = (n == 0 && Double.isNegative x) := by
      by_cases zero : n = 0
      · subst zero
        rw [Double.isNegative_of_zero x whole]
      · rw [beq_false_of_ne zero, Bool.false_and, Bool.false_and]
    simp only [same]
    split <;> rfl

theorem ofFloat_ofInt (n : Int) (large : fitsInteger n = false) :
    Value.ofFloat (Double.ofInt n) = .number (Double.ofInt n) := by
  have unfit (k : Int) (whole : Double.whole? (Double.ofInt n) = some k) : fitsInteger k = false := by
    by_cases short : n.natAbs < 2 ^ 53
    · rw [Double.whole?_ofInt_short n short] at whole
      rw [← Option.some.inj whole]
      exact large
    · have far := Double.whole?_ofInt_long n k (Nat.not_lt.1 short) whole
      by_contra fits
      rw [Bool.not_eq_false, fitsInteger, Bool.and_eq_true, decide_eq_true_eq, decide_eq_true_eq] at fits
      omega
  rw [Value.ofFloat]
  cases whole : Double.whole? (Double.ofInt n) with
  | none => rfl
  | some k =>
    simp only [unfit k whole, Bool.false_and, Bool.false_eq_true, if_false]

theorem plain?_ofInteger (n : Int) : Marshal.plain? (Marshal.ofInteger n) = some (norm (.integer n)) := by
  rw [Marshal.ofInteger, norm]
  by_cases fits : fitsInteger n = true
  · rw [if_pos fits, if_pos fits]
    rfl
  · rw [if_neg fits, if_neg fits, ofFloat_ofInt n (Bool.not_eq_true _ ▸ fits)]
    rfl

theorem plain?_ofString (content : String) : Marshal.plain? (Value.ofString content) = some (.text content) :=
  congrArg (fun text => some (HostValue.text text)) (Units.toText_ofString content)

theorem normItems_eq (items : List HostValue) : normItems items = items.map norm := by
  induction items with
  | nil => rfl
  | cons item rest ih => rw [normItems, List.map_cons, ih]

theorem length_le_memory (items : List HostValue) : items.length ≤ itemsMemory items := by
  induction items with
  | nil => exact Nat.le_refl 0
  | cons item rest ih =>
    rw [itemsMemory, List.length_cons]
    omega

theorem memory_le_of_mem (items : List HostValue) (item : HostValue) (among : item ∈ items) :
    item.memory ≤ itemsMemory items := by
  induction items with
  | nil => cases among
  | cons first rest ih =>
    rw [itemsMemory]
    obtain rfl | later := List.mem_cons.1 among
    · omega
    · have bound := ih later
      omega

end HostValue

theorem perform_done (clock : Clock) (part : Execution α) (world : World) (result : α)
    (ended : part world.machine = .done (.value result world.machine)) :
    perform clock part world = (.value result, world) := by
  rw [perform, ended]
  rfl

/-- The surface of an interpreter in which functions of the library may call so deeply. -/
@[reducible] def surface (methods : Array Method) (depth : Nat) : Surface := @Surface.ofEngine (engine methods depth)

namespace Marshal

/-! ### What comes back -/

section

variable [Surface] (clock : Clock)

theorem unfoldsFrom_of_each (path : List Ref) (array : Ref) (world : World) (results : List HostValue)
    (elements : List Value) (length : elements.length = results.length)
    (reads : ∀ (index : Nat) (value : Value), elements[index]? = some value →
      perform clock (Surface.get (.object array) (.index index)) world = (.value value, world))
    (each : ∀ (index : Nat) (result : HostValue) (value : Value), results[index]? = some result →
      elements[index]? = some value → Unfolds clock path value world (.value result) world)
    (index : Nat) (within : index ≤ results.length) :
    UnfoldsFrom clock path array results.length index world (.value (results.drop index)) world := by
  induction left : results.length - index generalizing index with
  | zero =>
    obtain rfl : index = results.length := by omega
    rw [List.drop_length]
    exact .done path array results.length world
  | succ left ih =>
    have more : index < results.length := by omega
    have element := List.getElem?_eq_getElem (length.symm ▸ more)
    rw [List.drop_eq_getElem_cons more]
    exact .next path array results.length index _ results[index] world world world world
      (.value (results.drop (index + 1))) more (reads index _ element)
      (each index _ _ (List.getElem?_eq_getElem more) element) (ih (index + 1) more (by omega))

end

section

variable (methods : Array Method) (depth : Nat) (clock : Clock) (realm : Array Object) (world : World)
  (furnished : Furnished realm world.machine.heap world.machine.heap.size)

include furnished

theorem unfolds_of_list (path : List Ref) (ref : Ref) (items : List HostValue) (elements : List Value)
    (low : realm.size ≤ ref) (there : world.machine.heap[ref]? = some (fullArray elements.toArray))
    (length : elements.length = items.length) (bound : items.length ≤ Value.longest) (fresh : ref ∉ path)
    (limit : path.length < deepestWalk)
    (each : ∀ (index : Nat) (item : HostValue) (value : Value), items[index]? = some item → elements[index]? = some value →
      @Unfolds (surface methods (depth + 1)) clock (ref :: path) value world (.value item.norm) world) :
    @Unfolds (surface methods (depth + 1)) clock path (.object ref) world (.value (HostValue.list items).norm) world := by
  have kind : perform clock (@Surface.isArray (surface methods (depth + 1)) (.object ref)) world = (.value true, world) :=
    perform_done clock _ world true (isArray_of_array ref world.machine _ elements.toArray _ false there rfl)
  have counted := @lengthOf_fullArray (engine methods (depth + 1)) ref world.machine elements.toArray there
    (show elements.length ≤ Value.longest from length.symm ▸ bound)
  have measured : perform clock (@entryLength (surface methods (depth + 1)) (.object ref)) world =
      (.value items.length, world) := by
    rw [← length]
    exact perform_done clock _ world _ ((bind_value (@lengthOf (engine methods (depth + 1)) (.object ref)) _ _ _ _
      counted).trans counted)
  have reads (index : Nat) (value : Value) (found : elements[index]? = some value) :
      perform clock (@Surface.get (surface methods (depth + 1)) (.object ref) (.index index)) world =
        (.value value, world) := by
    have datum := elements_fullArray _ _ ref _ (datum_of_there realm world.machine.heap ref _ furnished low there) value
      (List.mem_toArray.2 (List.mem_of_getElem? found))
    have proper : value ≠ .absent := by
      rintro rfl
      exact datum
    exact perform_done clock _ world value (@get_element (engine methods (depth + 1)) ref world.machine elements.toArray
      there index value (List.getElem?_toArray ▸ found) proper)
  have unfolds := @unfoldsFrom_of_each (surface methods (depth + 1)) clock (ref :: path) ref world
    (items.map HostValue.norm) elements (length.trans (List.length_map _).symm) reads (fun index result value found found' => ?_)
    0 (Nat.zero_le _)
  · rw [List.length_map, List.drop_zero] at unfolds
    rw [HostValue.norm, HostValue.normItems_eq]
    exact @Unfolds.array (surface methods (depth + 1)) clock path ref items.length world world world world
      (.value (items.map HostValue.norm)) kind fresh limit measured unfolds
  · rw [List.getElem?_map] at found
    obtain ⟨item, there', rfl⟩ := Option.map_eq_some_iff.1 found
    exact each index item value there' found'

variable (untouched : Untouched methods realm)

include untouched

theorem unfolds_of_usual (path : List Ref) (ref : Ref) (object : Object)
    (there : world.machine.heap[ref]? = some object) (usual : Usual object) :
    @Unfolds (surface methods (depth + 1)) clock path (.object ref) world (.value (.text "[object Object]")) world := by
  have kind : perform clock (@Surface.isArray (surface methods (depth + 1)) (.object ref)) world = (.value false, world) :=
    perform_done clock _ world false (isArray_of_ordinary ref world.machine object there usual.kind)
  have shows : perform clock (@scriptText (surface methods (depth + 1)) (.object ref)) world =
      (.value "[object Object]", world) := by
    refine perform_done clock _ world _ ((bind_value (@Value.toUnits (engine methods (depth + 1)) (.object ref)) _
      world.machine world.machine usualText (toUnits_usual methods realm world.machine.heap.size ref object world.machine
        untouched furnished there usual depth)).trans ?_)
    exact congrArg (fun text => Dialogue.done (Outcome.value text world.machine)) (Units.toText_ofString _)
  exact @Unfolds.object (surface methods (depth + 1)) clock path ref world world world (.value "[object Object]") kind shows

/-- What represents a value unfolds into what comes back of it. -/
theorem unfolds_of_represents (levels : Nat) (value : HostValue) (returns : value.Returns levels) (path : List Ref)
    (low : Ref) (result : Value) (represents : value.Represents world.machine.heap low result)
    (least : realm.size ≤ low) (fresh : ∀ ref ∈ path, ref < low) (limit : path.length + levels ≤ deepestWalk)
    (bound : value.memory ≤ Value.longest) :
    @Unfolds (surface methods (depth + 1)) clock path result world (.value value.norm) world := by
  induction returns generalizing path low result with
  | list levels items each ih =>
    cases represents with
    | list _ ref _ elements later there length inside =>
      have memory : objectSize + HostValue.itemsMemory items ≤ Value.longest := bound
      have items_ := HostValue.length_le_memory items
      refine unfolds_of_list methods depth clock realm world furnished path ref items elements
        (Nat.le_trans least later) there length (by omega) (fun among => ?_) (by omega) fun index item value found found' => ?_
      · exact Nat.lt_irrefl ref (Nat.lt_of_lt_of_le (fresh ref among) later)
      · have among := List.mem_of_getElem? found
        have part := HostValue.memory_le_of_mem items item among
        refine ih item among (ref :: path) (ref + 1) value (inside index item value found found')
          (Nat.le_succ_of_le (Nat.le_trans least later)) (fun other within => ?_) (by rw [List.length_cons]; omega) (by omega)
        obtain rfl | above := List.mem_cons.1 within
        · exact Nat.lt_succ_self _
        · exact Nat.lt_succ_of_lt (Nat.lt_of_lt_of_le (fresh other above) later)
  | map levels entries tidy =>
    cases represents with
    | map _ ref _ object later there kind _ above _ others _ _ =>
      obtain ⟨noText, noParent⟩ := tidy.names entries
      have parent := above noParent
      have text : object.properties.find? toStringKey = none := others toStringKey fun other among same =>
        noText ((Key.ofString_inj "toString" other).1 same ▸ among)
      have datum := datum_of_there realm world.machine.heap ref object furnished (Nat.le_trans least later) there
      refine unfolds_of_usual methods depth clock realm world furnished untouched path ref object there
        ⟨kind, parent, text, fun id => ?_⟩
      cases found : object.properties.find? (.symbol id) with
      | none => rfl
      | some property => exact absurd (datum.plain _ property found).1 nofun
  | integer levels n =>
    cases represents
    exact @unfolds_of_plain (surface methods (depth + 1)) clock path _ world _ (HostValue.plain?_ofInteger n)
  | float levels x =>
    cases represents
    exact @unfolds_of_plain (surface methods (depth + 1)) clock path _ world _ (HostValue.plain?_ofFloat x)
  | text levels content =>
    cases represents
    exact @unfolds_of_plain (surface methods (depth + 1)) clock path _ world _ (HostValue.plain?_ofString content)
  | symbol levels name =>
    cases represents
    exact @unfolds_of_plain (surface methods (depth + 1)) clock path _ world _ (HostValue.plain?_ofString name)
  | foreign levels shown =>
    cases represents
    exact @unfolds_of_plain (surface methods (depth + 1)) clock path _ world _ (HostValue.plain?_ofString shown)
  | null levels =>
    cases represents
    exact @unfolds_of_plain (surface methods (depth + 1)) clock path _ world _ rfl
  | boolean levels b =>
    cases represents
    exact @unfolds_of_plain (surface methods (depth + 1)) clock path _ world _ rfl

end

/-! ### What comes back again -/

theorem perform_keeps (clock : Clock) (realm : Array Object) (top : Ref) (good : α → Prop) (part : Execution α)
    (world after : World) (ending : Ending α) (keeps : Keeps realm top good part)
    (furnished : Furnished realm world.machine.heap top) (performed : perform clock part world = (ending, after)) :
    Furnished realm after.machine.heap top ∧ ∀ result, ending = .value result → good result := by
  have ends := keeps world.machine furnished
  unfold perform at performed
  generalize part world.machine = dialogue at ends performed
  cases ends with
  | value result machine holds =>
    cases performed
    exact ⟨holds.1, fun other same => Ending.value.inj same ▸ holds.2⟩
  | thrown reason machine fails =>
    cases performed
    exact ⟨fails, nofun⟩
  | stopped reason machine fails =>
    cases performed
    exact ⟨fails, nofun⟩

def Settled (levels : Nat) (value : HostValue) : Prop := value.Returns levels ∧ value.norm = value

theorem settled_text (levels : Nat) (ending : Ending String) (result : HostValue)
    (same : ending.map HostValue.text = .value result) : Settled levels result := by
  obtain ⟨text, -, rfl⟩ := Ending.map_eq_value _ ending result same
  exact ⟨.text levels text, rfl⟩

theorem settled_list (levels : Nat) (items : List HostValue) (each : ∀ item ∈ items, Settled levels item) :
    Settled (levels + 1) (.list items) := by
  refine ⟨.list levels items fun item among => (each item among).1, ?_⟩
  rw [HostValue.norm, HostValue.normItems_eq, List.map_congr_left fun item among => (each item among).2, List.map_id']

theorem settled_plain (levels : Nat) (low top : Ref) (value : Value) (result : HostValue)
    (known : value = .undefined ∨ IsDatum low top value) (simple : plain? value = some result) :
    Settled levels result := by
  obtain rfl | datum := known
  · cases simple
    exact ⟨.null levels, rfl⟩
  cases value with
  | null =>
    cases simple
    exact ⟨.null levels, rfl⟩
  | boolean b =>
    cases simple
    exact ⟨.boolean levels b, rfl⟩
  | integer n =>
    cases simple
    exact ⟨.integer levels n, if_pos datum⟩
  | number x =>
    cases simple
    have kept := HostValue.plain?_ofFloat x
    rw [show Value.ofFloat x = .number x from datum] at kept
    exact ⟨.float levels x, (Option.some.inj kept).symm⟩
  | text content =>
    cases simple
    exact ⟨.text levels _, rfl⟩
  | object ref => cases simple
  | _ => exact datum.elim

structure SurfaceKeeps [Surface] (realm : Array Object) (top : Ref) : Prop where
  kind : ∀ ref, IsDatum realm.size top (.object ref) →
    Keeps realm top (fun _ => True) (Surface.isArray (.object ref))
  text : ∀ ref, IsDatum realm.size top (.object ref) → Keeps realm top (fun _ => True) (scriptText (.object ref))
  length : ∀ ref, IsDatum realm.size top (.object ref) → Keeps realm top (fun _ => True) (entryLength (.object ref))
  item : ∀ ref, IsDatum realm.size top (.object ref) → ∀ index,
    Keeps realm top (fun found => found = .undefined ∨ IsDatum realm.size top found)
      (Surface.get (.object ref) (.index index))

theorem surfaceKeeps (methods : Array Method) (depth : Nat) (realm : Array Object) (top : Ref)
    (untouched : Untouched methods realm) : @SurfaceKeeps (surface methods depth) realm top := by
  have keep := convertersKeep methods realm top untouched depth
  refine @SurfaceKeeps.mk (surface methods depth) realm top ?_ ?_ ?_ ?_
  · exact fun ref datum => keeps_isArray methods realm top untouched ref (.inr (.inr datum))
  · intro ref datum
    exact keeps_bind realm top _ _ _ _ (@keeps_toUnits methods realm top (engine methods depth) untouched keep _ datum)
      fun _ _ => keeps_pure realm top _ _ trivial
  · intro ref datum
    have counted := @keeps_lengthOf methods realm top (engine methods depth) untouched keep ref (.inr (.inr datum))
    exact keeps_bind realm top _ _ _ _ counted fun _ _ => counted
  · exact fun ref datum index =>
      @keeps_element methods realm top (engine methods depth) untouched index ref (.inr (.inr datum))

section

variable [Surface] (clock : Clock) (realm : Array Object) (top : Ref) (keeps : SurfaceKeeps realm top)

include keeps

theorem all_of_keeps (kind : HostValue → Prop) (path : List Ref) (array : Ref) (length index : Nat)
    (world after : World) (ending : Ending (List HostValue)) (datum : IsDatum realm.size top (.object array))
    (furnished : Furnished realm world.machine.heap top)
    (each : ∀ item world ending after, Furnished realm world.machine.heap top →
      item = .undefined ∨ IsDatum realm.size top item → Unfolds clock path item world ending after →
      Furnished realm after.machine.heap top ∧ ∀ result, ending = .value result → kind result)
    (unfolds : UnfoldsFrom clock path array length index world ending after) :
    Furnished realm after.machine.heap top ∧ ∀ items, ending = .value items → ∀ item ∈ items, kind item := by
  have reads := keeps.item array datum
  induction left : length - index generalizing index world ending with
  | zero =>
    cases unfolds with
    | done => exact ⟨furnished, fun items same => by cases same; nofun⟩
    | unreadable => omega
    | failed => omega
    | next => omega
  | succ left ih =>
    cases unfolds with
    | done => omega
    | unreadable _ _ _ _ _ _ fault more fails =>
      exact ⟨(perform_keeps clock realm top _ _ world after _ (reads index) furnished fails).1,
        fun items same => absurd same (Ending.fault_ne_value fault items)⟩
    | failed _ _ _ _ item _ between _ fault more read fails =>
      obtain ⟨kept, known⟩ := perform_keeps clock realm top _ _ world between _ (reads index) furnished read
      exact ⟨(each item between _ after kept (known item rfl) fails).1,
        fun items same => absurd same (Ending.fault_ne_value fault items)⟩
    | next _ _ _ _ item converted _ between middle _ rest more read first later =>
      obtain ⟨kept, known⟩ := perform_keeps clock realm top _ _ world between _ (reads index) furnished read
      obtain ⟨kept', good⟩ := each item between _ middle kept (known item rfl) first
      obtain ⟨kept'', others⟩ := ih (index + 1) middle rest kept' later (by omega)
      refine ⟨kept'', fun items same item among => ?_⟩
      obtain ⟨found, rfl, rfl⟩ := Ending.map_eq_value _ rest items same
      obtain rfl | further := List.mem_cons.1 among
      · exact good _ rfl
      · exact others found rfl item further

/-- Whatever a value of the host's unfolds into comes back as it is. -/
theorem settled_of_unfolds (levels : Nat) (path : List Ref) (value : Value) (world after : World)
    (ending : Ending HostValue) (left : path.length + levels = 128)
    (furnished : Furnished realm world.machine.heap top) (known : value = .undefined ∨ IsDatum realm.size top value)
    (unfolds : Unfolds clock path value world ending after) :
    Furnished realm after.machine.heap top ∧ ∀ result, ending = .value result → Settled levels result := by
  induction levels using Nat.strongRecOn generalizing path value world after ending with
  | _ levels ih =>
    have object (ref : Ref) (same : value = .object ref) : IsDatum realm.size top (.object ref) := by
      subst same
      exact known.resolve_left nofun
    -- An object is told from an array, and then shown.
    have shown (ref : Ref) (between : World) (array : Bool) (ending : Ending String)
        (datum : IsDatum realm.size top (.object ref))
        (kind : perform clock (Surface.isArray (.object ref)) world = (.value array, between))
        (shows : perform clock (scriptText (.object ref)) between = (ending, after)) :
        Furnished realm after.machine.heap top ∧ ∀ result, ending.map HostValue.text = .value result → Settled levels result := by
      have kept := (perform_keeps clock realm top _ _ world between _ (keeps.kind ref datum) furnished kind).1
      exact ⟨(perform_keeps clock realm top _ _ between after _ (keeps.text ref datum) kept shows).1,
        settled_text levels ending⟩
    cases unfolds with
    | undefined | absent | null | boolean | integer | number | text =>
      refine ⟨furnished, fun other same => ?_⟩
      cases same
      exact settled_plain levels realm.size top _ _ known rfl
    | symbol | bigint => exact (known.resolve_left nofun).elim
    | unknown _ ref _ _ fault fails =>
      exact ⟨(perform_keeps clock realm top _ _ world after _ (keeps.kind ref (object ref rfl)) furnished fails).1,
        fun result same => absurd same (Ending.fault_ne_value fault result)⟩
    | object _ ref _ between _ ending kind shows => exact shown ref between false ending (object ref rfl) kind shows
    | circular _ ref _ _ kind _ =>
      refine ⟨(perform_keeps clock realm top _ _ world after _ (keeps.kind ref (object ref rfl)) furnished kind).1,
        fun result same => ?_⟩
      cases same
      exact ⟨.text levels "[Circular]", rfl⟩
    | deep _ ref _ between _ ending kind _ _ shows => exact shown ref between true ending (object ref rfl) kind shows
    | unmeasured _ ref _ between _ fault kind _ _ fails =>
      have datum := object ref rfl
      have kept := (perform_keeps clock realm top _ _ world between _ (keeps.kind ref datum) furnished kind).1
      exact ⟨(perform_keeps clock realm top _ _ between after _ (keeps.length ref datum) kept fails).1,
        fun result same => absurd same (Ending.fault_ne_value fault result)⟩
    | array _ ref length _ between inside _ ending kind _ limit measured items =>
      have datum := object ref rfl
      have kept := (perform_keeps clock realm top _ _ world between _ (keeps.kind ref datum) furnished kind).1
      have kept' := (perform_keeps clock realm top _ _ between inside _ (keeps.length ref datum) kept measured).1
      obtain ⟨fewer, rfl⟩ : ∃ fewer, levels = fewer + 1 := ⟨levels - 1, by omega⟩
      obtain ⟨kept'', each⟩ := all_of_keeps clock realm top keeps (Settled fewer) (ref :: path) ref length 0 inside after
        ending datum kept' (fun item world ending after furnished known unfolds => ih fewer (Nat.lt_succ_self fewer)
          (ref :: path) item world after ending (by rw [List.length_cons]; omega) furnished known unfolds) items
      refine ⟨kept'', fun result same => ?_⟩
      obtain ⟨found, rfl, rfl⟩ := Ending.map_eq_value _ ending result same
      exact settled_list fewer found (each found rfl)

end

end Marshal

end ScriptSandbox
