import ScriptSandbox.Proofs.RoundTrip

/-!
The object graph that a value of the host becomes in a script. Lists become arrays of their items and maps become
plain objects with a property for each text of a key, at every level. One text is the exception: the name of the
parent is not defined but assigned, and the prototype of all objects takes care of that.
-/

namespace ScriptSandbox

open Script Script.Execution

namespace HostValue

/-- The names of an object made of entries: indices in ascending order, and then all others in the order in which they
first occur. -/
def ownNames (entries : List (HostValue × HostValue)) : List Key :=
  (((names entries).filterMap fun text => Key.indexOf? (Units.ofString text)).mergeSort (· ≤ ·)).map Key.index ++
    ((names entries).filter fun text => (Key.indexOf? (Units.ofString text)).isNone).map Key.ofString

/-- A value of the script is the faithful image of a value of the host. -/
inductive Mirrors (heap : Array Object) : HostValue → Value → Prop
  | null : Mirrors heap .null .null
  | boolean (b : Bool) : Mirrors heap (.boolean b) (.boolean b)
  | integer (n : Int) : Mirrors heap (.integer n) (Marshal.ofInteger n)
  | float (x : Float) : Mirrors heap (.float x) (.ofFloat x)
  | text (content : String) : Mirrors heap (.text content) (.text (Units.ofString content))
  | symbol (name : String) : Mirrors heap (.symbol name) (.text (Units.ofString name))
  | foreign (shown : String) : Mirrors heap (.foreign shown) (.text (Units.ofString shown))
  /-- A dense array of as many elements, each the image of the item at its index. -/
  | list (ref : Ref) (items : List HostValue) (elements : List Value)
    (there : heap[ref]? = some (fullArray elements.toArray)) (length : elements.length = items.length)
    (each : ∀ (index : Nat) (item : HostValue) (value : Value), items[index]? = some item →
      elements[index]? = some value → Mirrors heap item value) : Mirrors heap (.list items) (.object ref)
  /-- An ordinary object that has the prototype of all objects, and for each text of a key one property: the image of
  the value of the last entry. -/
  | map (ref : Ref) (entries : List (HostValue × HostValue)) (object : Object) (there : heap[ref]? = some object)
    (kind : object.kind = .ordinary) (parent : object.parent = some Intrinsic.objectPrototype.ref)
    (names : ownKeys object = ownNames entries)
    (has : ∀ text item, lastWith text entries = some item →
      ∃ value, ownProperty? heap object (.ofString text) = some (.plain value))
    (each : ∀ text item value, lastWith text entries = some item →
      ownProperty? heap object (.ofString text) = some (.plain value) → Mirrors heap item value) :
    Mirrors heap (.map entries) (.object ref)

/-- Some map has the name of the parent among its keys. Only the last entry of each text counts. -/
inductive NamesParent : HostValue → Prop
  | here (entries : List (HostValue × HostValue)) (named : "__proto__" ∈ names entries) : NamesParent (.map entries)
  | item (items : List HostValue) (item : HostValue) (among : item ∈ items) (inside : NamesParent item) :
    NamesParent (.list items)
  | entry (entries : List (HostValue × HostValue)) (text : String) (item : HostValue)
    (last : lastWith text entries = some item) (inside : NamesParent item) : NamesParent (.map entries)

/-! ### Names -/

theorem names_nodup (entries : List (HostValue × HostValue)) : (names entries).Nodup := by
  induction entries with
  | nil => exact List.nodup_nil
  | cons entry rest ih =>
    rw [names, List.nodup_cons]
    exact ⟨by simp, ih.filter _⟩

def indexOf : Key → Option Nat
  | .index n => some n
  | _ => none

def isName : Key → Bool
  | .name _ => true
  | _ => false

theorem mem_ownNames_iff (key : Key) (entries : List (HostValue × HostValue)) :
    key ∈ ownNames entries ↔ ∃ entry ∈ entries, key = .ofString entry.1.keyText := by
  have named (text : String) : text ∈ names entries ↔ ∃ entry ∈ entries, entry.1.keyText = text :=
    mem_names_iff text entries
  simp only [ownNames, List.mem_append, List.mem_map, List.mem_mergeSort, List.mem_filterMap, List.mem_filter,
    Option.isNone_iff_eq_none]
  constructor
  · rintro (⟨n, ⟨text, among, index⟩, rfl⟩ | ⟨text, ⟨among, -⟩, rfl⟩)
    · obtain ⟨entry, within, rfl⟩ := (named text).1 among
      refine ⟨entry, within, ?_⟩
      rw [Key.ofString, Key.ofUnits, index]
    · obtain ⟨entry, within, rfl⟩ := (named text).1 among
      exact ⟨entry, within, rfl⟩
  · rintro ⟨entry, within, rfl⟩
    have among := (named entry.1.keyText).2 ⟨entry, within, rfl⟩
    cases index : Key.indexOf? (Units.ofString entry.1.keyText) with
    | some n =>
      refine .inl ⟨n, ⟨_, among, index⟩, ?_⟩
      rw [Key.ofString, Key.ofUnits, index]
    | none => exact .inr ⟨_, ⟨among, index⟩, rfl⟩

theorem ownKeys_of_names (object : Object) (entries : List (HostValue × HostValue)) (kind : object.kind = .ordinary)
    (keys : object.properties.keys = (names entries).map Key.ofString) : ownKeys object = ownNames entries := by
  obtain ⟨_, parent, extensible, properties⟩ := object
  subst kind
  change (if (properties.keys.filterMap indexOf).isEmpty = true then []
    else ([] ++ properties.keys.filterMap indexOf).mergeSort (· ≤ ·)).map Key.index ++ properties.keys.filter isName ++
      properties.keys.filter Key.isSymbol = _
  have indices : properties.keys.filterMap indexOf =
      (names entries).filterMap fun text => Key.indexOf? (Units.ofString text) := by
    rw [keys, List.filterMap_map]
    congr 1
    funext text
    simp only [Function.comp_def, Key.ofString, Key.ofUnits]
    cases Key.indexOf? (Units.ofString text) <;> rfl
  have others : properties.keys.filter isName =
      ((names entries).filter fun text => (Key.indexOf? (Units.ofString text)).isNone).map Key.ofString := by
    rw [keys, List.filter_map]
    congr 2
    funext text
    simp only [Function.comp_def, Key.ofString, Key.ofUnits]
    cases Key.indexOf? (Units.ofString text) <;> rfl
  have symbols : properties.keys.filter Key.isSymbol = [] := by
    simp [keys, Key.isSymbol_ofString]
  rw [indices, others, symbols, List.append_nil, List.nil_append, ownNames]
  split
  · next empty => rw [List.isEmpty_iff.1 empty, List.mergeSort_nil]
  · rfl

/-! ### Images -/

/-- Without the name of the parent in the way, what represents a value is its faithful image. -/
theorem mirrors_of_represents (heap : Array Object) (low : Ref) (value : HostValue) (result : Value)
    (represents : value.Represents heap low result) (plain : ¬ value.NamesParent) : value.Mirrors heap result := by
  induction represents with
  | null low => exact .null
  | boolean low b => exact .boolean b
  | integer low n => exact .integer n
  | float low x => exact .float x
  | text low content => exact .text content
  | symbol low name => exact .symbol name
  | foreign low shown => exact .foreign shown
  | list low ref items elements later there length each ih =>
    refine .list ref items elements there length fun index item value found found' => ?_
    exact ih index item value found found' fun inside => plain (.item items item (List.mem_of_getElem? found) inside)
  | map low ref entries object later there kind guarded parent keys others has each ih =>
    have bare : "__proto__" ∉ names entries := fun named => plain (.here entries named)
    have proper (text : String) (item : HostValue) (last : lastWith text entries = some item) : text ≠ "__proto__" := by
      rintro rfl
      apply bare
      rw [← lastWith_isSome_iff, last]
      rfl
    refine .map ref entries object there kind (parent bare) (ownKeys_of_names object entries kind (keys bare)) ?_ ?_
    · intro text item last
      rw [own_ordinary heap object _ kind]
      exact has text item (proper text item last) last
    · intro text item value last found
      rw [own_ordinary heap object _ kind] at found
      exact ih text item value (proper text item last) last found fun inside => plain (.entry entries text item last inside)

/-- What represents a value that names the parent somewhere is no faithful image of it: there, either the property is
missing or the prototype is another one. The induction is on the way to the name. -/
theorem not_mirrors_of_namesParent (heap : Array Object) (value : HostValue) (named : value.NamesParent) (low : Ref)
    (result : Value) (represents : value.Represents heap low result) : ¬ value.Mirrors heap result := by
  intro mirrors
  induction named generalizing low result with
  | here entries named =>
    cases represents with
    | map _ ref _ object _ there kind guarded _ _ _ _ _ =>
      cases mirrors with
      | map _ _ object' there' kind' parent names has each =>
        rw [there] at there'
        cases there'
        obtain ⟨item, last⟩ := Option.isSome_iff_exists.1 ((lastWith_isSome_iff "__proto__" entries).2 named)
        obtain ⟨value, own⟩ := has "__proto__" item last
        rw [own_ordinary heap object _ kind] at own
        rcases guarded with missing | other
        · rw [protoKey, own] at missing
          cases missing
        · exact other parent
  | item items item among inside ih =>
    cases represents with
    | list _ ref _ elements _ there length each =>
      cases mirrors with
      | list _ _ elements' there' length' each' =>
        rw [there] at there'
        obtain rfl : elements = elements' := by
          have same := congrArg Object.kind (Option.some.inj there')
          simp only [fullArray, Kind.array.injEq] at same
          exact List.toArray_inj same.1
        obtain ⟨index, found⟩ := List.getElem?_of_mem among
        have less : index < elements.length := by
          rw [length]
          exact (List.getElem?_eq_some_iff.1 found).1
        have element := List.getElem?_eq_getElem less
        exact ih (ref + 1) elements[index] (each index item _ found element) (each' index item _ found element)
  | entry entries text item last inside ih =>
    cases represents with
    | map _ ref _ object _ there kind guarded _ _ _ has each =>
      cases mirrors with
      | map _ _ object' there' kind' parent names has' each' =>
        rw [there] at there'
        cases there'
        obtain ⟨value, own⟩ := has' text item last
        have found := own
        rw [own_ordinary heap object _ kind] at found
        by_cases proto : text = "__proto__"
        · subst proto
          rcases guarded with missing | other
          · rw [protoKey, found] at missing
            cases missing
          · exact other parent
        · exact ih (ref + 1) value (each text item value proto last found) (each' text item value last own)

end HostValue

namespace Marshal

/-- In a realm whose prototypes no script has changed, and with memory enough, every value of the host becomes a value
of the script, and no object that was there changes. The result is the faithful image of the value, at every level of
lists and maps, unless some map in it has the name of the parent among its keys: this one name is assigned to an
accessor. -/
theorem mirrors_iff (methods : Array Method) (depth : Nat) (machine : Machine) (untouched : Untouched methods machine.heap)
    (value : HostValue) (memory : Affords machine value.memory) : ∃ result after,
    @toScript (engine methods (depth + 1)) value machine = .done (.value result after) ∧
      (∀ ref < machine.heap.size, after.heap[ref]? = machine.heap[ref]?) ∧
      (value.Mirrors after.heap result ↔ ¬ value.NamesParent) := by
  have ends := converts methods depth machine.heap untouched value machine (furnished_self _)
  generalize @toScript (engine methods (depth + 1)) value machine = dialogue at ends ⊢
  cases ends with
  | value result after holds =>
    obtain ⟨made, -, represents⟩ := holds
    refine ⟨result, after, rfl, fun ref less => made.kept ref less nofun, ?_⟩
    constructor
    · intro mirrors named
      exact value.not_mirrors_of_namesParent after.heap named _ result represents mirrors
    · exact value.mirrors_of_represents after.heap _ result represents
  | thrown reason after fails => exact absurd memory fails
  | stopped reason after fails => exact absurd memory fails

def jumbled : HostValue :=
  .map [(.text "b", .integer 1), (.integer 10, .null), (.text "2", .boolean true), (.text "10", .list [.text "x"]),
    (.symbol "b", .map [(.null, .integer 3)])]

theorem plain_jumbled : ¬ jumbled.NamesParent := by
  have simple (b : HostValue) (leaf : b = .integer 3 ∨ b = .text "x" ∨ b = .integer 1 ∨ b = .null ∨ b = .boolean true) :
      ¬ b.NamesParent := by
    rcases leaf with rfl | rfl | rfl | rfl | rfl <;> nofun
  intro named
  cases named with
  | here _ named => exact absurd named (by decide +kernel)
  | entry _ text item last inside =>
    obtain ⟨entry, among, -, rfl⟩ := HostValue.mem_of_lastWith text _ _ last
    fin_cases among
    · exact simple _ (by simp) inside
    · exact simple _ (by simp) inside
    · exact simple _ (by simp) inside
    · cases inside with
      | item _ item among inside =>
        rw [List.mem_singleton.1 among] at inside
        exact simple _ (by simp) inside
    · cases inside with
      | here _ named => exact absurd named (by decide +kernel)
      | entry _ text item last inside =>
        obtain ⟨entry, among, -, rfl⟩ := HostValue.mem_of_lastWith text _ _ last
        rw [List.mem_singleton.1 among] at inside
        exact simple _ (by simp) inside

/-- It becomes an object all the same. -/
theorem mirrors_jumbled : Untouched smallMethods smallWorld.machine.heap ∧ Affords smallWorld.machine jumbled.memory ∧
    ∃ result after, @toScript (engine smallMethods 1) jumbled smallWorld.machine = .done (.value result after) ∧
      jumbled.Mirrors after.heap result := by
  have memory := (room_small jumbled (by decide +kernel)).memory
  obtain ⟨result, after, ended, -, mirrors⟩ := mirrors_iff smallMethods 0 smallWorld.machine untouched_small jumbled memory
  exact ⟨untouched_small, memory, result, after, ended, mirrors.2 plain_jumbled⟩

def misnamed : HostValue := .map [(.text "__proto__", .integer 5)]

/-- It does not become one. -/
theorem misnamed_not_mirrored : Untouched smallMethods smallWorld.machine.heap ∧ ∃ result after,
    @toScript (engine smallMethods 1) misnamed smallWorld.machine = .done (.value result after) ∧
      ¬ misnamed.Mirrors after.heap result := by
  have named : misnamed.NamesParent := .here _ (by decide)
  have ends := converts smallMethods 0 smallWorld.machine.heap untouched_small misnamed smallWorld.machine (furnished_self _)
  have memory := (room_small misnamed (by decide +kernel)).memory
  refine ⟨untouched_small, ?_⟩
  generalize @toScript (engine smallMethods 1) misnamed smallWorld.machine = dialogue at ends ⊢
  cases ends with
  | value result after holds =>
    obtain ⟨-, -, represents⟩ := holds
    exact ⟨result, after, rfl, misnamed.not_mirrors_of_namesParent after.heap named _ result represents⟩
  | thrown reason after fails => exact absurd memory fails
  | stopped reason after fails => exact absurd memory fails

end Marshal

end ScriptSandbox
