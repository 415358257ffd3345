import ScriptSandbox.Marshal
import ScriptSandbox.Proofs.Assigning

/-!
Host values as values of a script. A list becomes an array of its own with what represents the items, a map an
object of its own; every object that is made comes after those that were there, and none of these changes.
There is only one reason for a failure: the memory that is left is not enough.
-/

namespace ScriptSandbox

open Script Script.Execution

theorem ofFloat_cases (x : Float) : (∃ n, Value.ofFloat x = .integer n ∧ fitsInteger n = true) ∨
    Value.ofFloat x = .number x := by
  rw [Value.ofFloat]
  cases Double.whole? x with
  | none => exact .inr rfl
  | some n =>
    by_cases whole : (fitsInteger n && !(n == 0 && x.toBits != 0)) = true
    · exact .inl ⟨n, if_pos whole, (Bool.and_eq_true _ _ ▸ whole).1⟩
    · exact .inr (if_neg whole)

theorem isDatum_ofFloat (low top : Ref) (x : Float) : IsDatum low top (.ofFloat x) := by
  obtain ⟨n, same, fits⟩ | same := ofFloat_cases x
  · rw [same]
    exact fits
  · rw [same]
    exact same

theorem isDatum_ofInteger (low top : Ref) (n : Int) : IsDatum low top (Marshal.ofInteger n) := by
  rw [Marshal.ofInteger]
  by_cases fits : fitsInteger n = true
  · rw [if_pos fits]
    exact fits
  · rw [if_neg fits]
    exact isDatum_ofFloat low top _

namespace HostValue

mutual

def memory : HostValue → Nat
  | .text content => textSize (Units.ofString content)
  | .symbol name => textSize (Units.ofString name)
  | .foreign shown => textSize (Units.ofString shown)
  | .list items => objectSize + itemsMemory items
  | .map entries => objectSize + entriesMemory entries
  | _ => 0

def itemsMemory : List HostValue → Nat
  | [] => 0
  | item :: rest => item.memory + (16 + propertySize) + itemsMemory rest

def entriesMemory : List (HostValue × HostValue) → Nat
  | [] => 0
  | (_, item) :: rest => item.memory + propertySize + entriesMemory rest

end

def Tidy (entries : List (HostValue × HostValue)) : Prop :=
  ∀ entry ∈ entries, entry.1.keyText ≠ "toString" ∧ entry.1.keyText ≠ "__proto__"

theorem Tidy.names (entries : List (HostValue × HostValue)) (tidy : Tidy entries) :
    "toString" ∉ names entries ∧ "__proto__" ∉ names entries := by
  simp only [mem_names_iff, not_exists, not_and]
  exact ⟨fun entry among => (tidy entry among).1, fun entry among => (tidy entry among).2⟩

/-- A value of the script represents a value of the host, by objects from some place on. -/
inductive Represents (heap : Array Object) : Ref → HostValue → Value → Prop
  | null (low : Ref) : Represents heap low .null .null
  | boolean (low : Ref) (b : Bool) : Represents heap low (.boolean b) (.boolean b)
  | integer (low : Ref) (n : Int) : Represents heap low (.integer n) (Marshal.ofInteger n)
  | float (low : Ref) (x : Float) : Represents heap low (.float x) (.ofFloat x)
  | text (low : Ref) (content : String) : Represents heap low (.text content) (.text (Units.ofString content))
  | symbol (low : Ref) (name : String) : Represents heap low (.symbol name) (.text (Units.ofString name))
  | foreign (low : Ref) (shown : String) : Represents heap low (.foreign shown) (.text (Units.ofString shown))
  | list (low ref : Ref) (items : List HostValue) (elements : List Value) (later : low ≤ ref)
    (there : heap[ref]? = some (fullArray elements.toArray)) (length : elements.length = items.length)
    (each : ∀ (index : Nat) (item : HostValue) (value : Value), items[index]? = some item → elements[index]? = some value →
      Represents heap (ref + 1) item value) : Represents heap low (.list items) (.object ref)
  | map (low ref : Ref) (entries : List (HostValue × HostValue)) (object : Object) (later : low ≤ ref)
    (there : heap[ref]? = some object) (kind : object.kind = .ordinary) (guarded : Guarded object)
    (parent : "__proto__" ∉ names entries → object.parent = some Intrinsic.objectPrototype.ref)
    (keys : "__proto__" ∉ names entries → object.properties.keys = (names entries).map Key.ofString)
    (others : ∀ key, (∀ text ∈ names entries, key ≠ .ofString text) → object.properties.find? key = none)
    (has : ∀ text item, text ≠ "__proto__" → lastWith text entries = some item →
      ∃ value, object.properties.find? (.ofString text) = some (.plain value))
    (each : ∀ text item value, text ≠ "__proto__" → lastWith text entries = some item →
      object.properties.find? (.ofString text) = some (.plain value) → Represents heap (ref + 1) item value) :
    Represents heap low (.map entries) (.object ref)

theorem Represents.mono (before after : Array Object) (low least : Ref) (item : HostValue) (value : Value)
    (represents : Represents before low item value) (lower : least ≤ low)
    (kept : ∀ ref object, low ≤ ref → before[ref]? = some object → after[ref]? = some object) :
    Represents after least item value := by
  induction represents generalizing least with
  | null low => exact .null least
  | boolean low b => exact .boolean least b
  | integer low n => exact .integer least n
  | float low x => exact .float least x
  | text low content => exact .text least content
  | symbol low name => exact .symbol least name
  | foreign low shown => exact .foreign least shown
  | list low ref items elements later there length each ih =>
    refine .list least ref items elements (Nat.le_trans lower later) (kept ref _ later there) length ?_
    intro index item value found found'
    exact ih index item value found found' (ref + 1) (Nat.le_refl _) fun other object above =>
      kept other object (Nat.le_trans later (Nat.le_of_succ_le above))
  | map low ref entries object later there kind guarded parent keys others has each ih =>
    refine .map least ref entries object (Nat.le_trans lower later) (kept ref _ later there) kind guarded parent keys
      others has ?_
    intro text item value named last found
    exact ih text item value named last found (ref + 1) (Nat.le_refl _) fun other object above =>
      kept other object (Nat.le_trans later (Nat.le_of_succ_le above))

theorem Represents.later (heap : Array Object) (low other : Ref) (item : HostValue)
    (represents : Represents heap low item (.object other)) : low ≤ other := by
  have number (x : Float) : Value.ofFloat x ≠ .object other := by
    obtain ⟨n, same, -⟩ | same := ofFloat_cases x <;> rw [same] <;> nofun
  generalize same : Value.object other = value at represents
  cases represents with
  | list _ ref items elements later => exact Value.object.inj same ▸ later
  | map _ ref entries object later => exact Value.object.inj same ▸ later
  | integer _ n =>
    rw [Marshal.ofInteger] at same
    by_cases fits : fitsInteger n = true
    · rw [if_pos fits] at same
      cases same
    · rw [if_neg fits] at same
      exact absurd same.symm (number _)
  | float _ x => exact absurd same.symm (number x)
  | _ => cases same

end HostValue

/-! ### Making objects -/

def Affords (machine : Machine) (size : Nat) : Prop := ∀ limit, machine.limit = some limit → machine.charged + size ≤ limit

/-- Objects of the host were added to a heap, for so much memory. Of those that were there at most one has
changed. -/
structure Made (realm : Array Object) (changed : Option Ref) (before after : Machine) (size : Nat) : Prop where
  furnished : Furnished realm after.heap after.heap.size
  grows : before.heap.size ≤ after.heap.size
  kept : ∀ ref < before.heap.size, some ref ≠ changed → after.heap[ref]? = before.heap[ref]?
  limit : after.limit = before.limit
  charged : after.charged ≤ before.charged + size
  fixed : SameVariables before after

theorem Made.trans (realm : Array Object) (changed : Option Ref) (first middle last : Machine) (size more : Nat)
    (made : Made realm changed first middle size) (further : Made realm changed middle last more) :
    Made realm changed first last (size + more) := by
  refine ⟨further.furnished, Nat.le_trans made.grows further.grows, fun ref less other => ?_,
    further.limit.trans made.limit, ?_, made.fixed.trans first middle last further.fixed⟩
  · exact (further.kept ref (Nat.lt_of_lt_of_le less made.grows) other).trans (made.kept ref less other)
  · have charged := made.charged
    have charged' := further.charged
    omega

theorem Made.weaken (realm : Array Object) (changed : Option Ref) (before after : Machine) (size : Nat)
    (made : Made realm none before after size) : Made realm changed before after size :=
  ⟨made.furnished, made.grows, fun ref less _ => made.kept ref less nofun, made.limit, made.charged, made.fixed⟩

theorem Made.keeps (realm : Array Object) (changed : Option Ref) (before after : Machine) (size : Nat) (ref : Ref)
    (object : Object) (made : Made realm changed before after size) (other : some ref ≠ changed)
    (there : before.heap[ref]? = some object) : after.heap[ref]? = some object :=
  (made.kept ref (lt_of_there before.heap ref object there) other).trans there

theorem Made.extend (realm : Array Object) (first middle last : Machine) (ref : Ref) (size more : Nat)
    (made : Made realm none first middle size) (fresh : first.heap.size ≤ ref)
    (further : Made realm (some ref) middle last more) : Made realm none first last (size + more) := by
  have both := (made.weaken realm (some ref) first middle size).trans realm _ first middle last size more further
  refine ⟨both.furnished, both.grows, fun other less _ => both.kept other less fun same => ?_, both.limit, both.charged,
    both.fixed⟩
  exact Nat.ne_of_lt (Nat.lt_of_lt_of_le less fresh) (Option.some.inj same)

theorem Made.affords (realm : Array Object) (changed : Option Ref) (before after : Machine) (size more : Nat)
    (made : Made realm changed before after size) (affords : Affords before (size + more)) : Affords after more := by
  intro limit limited
  have bound := affords limit (made.limit.symm.trans limited)
  have charged := made.charged
  omega

theorem Affords.first (machine : Machine) (size more : Nat) (affords : Affords machine (size + more)) :
    Affords machine size := fun limit limited => by
  have bound := affords limit limited
  omega

theorem made_charge (realm : Array Object) (machine : Machine) (size : Nat)
    (furnished : Furnished realm machine.heap machine.heap.size) :
    Made realm none machine { machine with charged := machine.charged + size } size :=
  ⟨furnished, Nat.le_refl _, fun _ _ _ => rfl, rfl, Nat.le_refl _, rfl, rfl⟩

theorem ends_charge (realm : Array Object) (size : Nat) (machine : Machine)
    (furnished : Furnished realm machine.heap machine.heap.size) :
    Ends (fun _ after => Made realm none machine after size) (fun _ => ¬ Affords machine size)
      (charge size machine) := by
  have made := made_charge realm machine size furnished
  obtain ⟨noted, -⟩ | ⟨refused, limit, limited, much⟩ := charge_cases size machine
  · rw [noted]
    exact .value () _ made
  · rw [refused]
    exact ends_throwNew _ _ _ _ _ fun affords => Nat.not_le.2 much (affords limit limited)

theorem ends_newText (realm : Array Object) (machine : Machine) (text : Units)
    (furnished : Furnished realm machine.heap machine.heap.size) :
    Ends (fun result after => Made realm none machine after (textSize text) ∧ result = .text text)
      (fun _ => ¬ Affords machine (textSize text)) (newText text machine) := by
  unfold newText
  by_cases long : 256 ≤ text.size
  · simp only [if_pos long]
    exact ends_bind _ _ _ _ _ machine (ends_charge realm (textSize text) machine furnished) fun _ after made =>
      .value _ after ⟨made, rfl⟩
  · simp only [if_neg long]
    exact .value _ machine ⟨⟨furnished, Nat.le_refl _, fun _ _ _ => rfl, rfl, Nat.le_add_right _ _, rfl, rfl⟩, rfl⟩

theorem made_new (realm : Array Object) (machine : Machine) (object : Object)
    (furnished : Furnished realm machine.heap machine.heap.size)
    (datum : IsDatumObject realm.size (machine.heap.size + 1) machine.heap.size object) :
    Made realm none machine { machine with heap := machine.heap.push object, charged := machine.charged + objectSize }
      objectSize := by
  have pushed := furnished_push realm machine.heap machine.heap.size object furnished
  have same (ref : Ref) (less : ref < machine.heap.size) : (machine.heap.push object)[ref]? = machine.heap[ref]? := by
    rw [Array.getElem?_push_lt less, Array.getElem?_eq_getElem less]
  have size : (machine.heap.push object).size = machine.heap.size + 1 := Array.size_push object
  refine ⟨⟨⟨?_, Nat.le_refl _⟩, pushed.kept, fun ref low high => ?_⟩, pushed.bound.2, fun ref less _ => same ref less, rfl,
    Nat.le_refl _, rfl, rfl⟩
  · rw [size]
    exact Nat.le_succ_of_le furnished.bound.1
  · rw [size] at high ⊢
    obtain less | equal := Nat.lt_or_eq_of_le (Nat.le_of_lt_succ high)
    · obtain ⟨other, there, datum'⟩ := furnished.data ref low less
      exact ⟨other, (same ref less).trans there, datum'.mono _ _ _ ref other (Nat.le_succ _)⟩
    · subst equal
      exact ⟨object, Array.getElem?_push_size, datum⟩

def bareObject : Object := Object.create .ordinary (some Intrinsic.objectPrototype.ref)

theorem made_bare (realm : Array Object) (machine : Machine)
    (furnished : Furnished realm machine.heap machine.heap.size) :
    Made realm none machine { machine with heap := machine.heap.push bareObject, charged := machine.charged + objectSize }
      objectSize :=
  made_new realm machine bareObject furnished ⟨.inl rfl, fun _ same => .inl (Option.some.inj same).symm, rfl,
    Properties.sound_empty, fun key property found => absurd found (Properties.not_found_empty key property)⟩

theorem made_changes (realm : Array Object) (before after : Machine) (ref : Ref) (object : Object) (size : Nat)
    (furnished : Furnished realm before.heap before.heap.size) (low : realm.size ≤ ref)
    (changes : Changes before.heap after.heap ref object) (datum : IsDatumObject realm.size before.heap.size ref object)
    (limit : after.limit = before.limit) (charged : after.charged ≤ before.charged + size)
    (fixed : SameVariables before after) : Made realm (some ref) before after size := by
  refine ⟨furnished_changes realm before.heap after.heap ref object furnished low changes datum,
    Nat.le_of_eq changes.size.symm, fun other _ different => changes.others other fun same => different (by rw [same]),
    limit, charged, fixed⟩

/-! ### Conversion -/

namespace Marshal

section

variable (methods : Array Method) (depth : Nat) (realm : Array Object)

def Converts (value : HostValue) : Prop :=
  ∀ machine : Machine, Furnished realm machine.heap machine.heap.size →
    Ends (fun result after => Made realm none machine after value.memory ∧
        IsDatum realm.size after.heap.size result ∧ value.Represents after.heap machine.heap.size result)
      (fun _ => ¬ Affords machine value.memory) (@toScript (engine methods (depth + 1)) value machine)

def FillsArray (items : List HostValue) : Prop :=
  ∀ (machine : Machine) (array : Ref) (done : List Value), Furnished realm machine.heap machine.heap.size →
    realm.size ≤ array → machine.heap[array]? = some (fullArray done.toArray) →
    Ends (fun _ after => Made realm (some array) machine after (HostValue.itemsMemory items) ∧
        ∃ added : List Value, after.heap[array]? = some (fullArray (done ++ added).toArray) ∧
          added.length = items.length ∧ ∀ (index : Nat) (item : HostValue) (value : Value), items[index]? = some item →
            added[index]? = some value → item.Represents after.heap (array + 1) value)
      (fun _ => ¬ Affords machine (HostValue.itemsMemory items))
      (@fillArray (engine methods (depth + 1)) array done.length items machine)

/-- An object to which entries have been added: the last one with each text counts, and new names come in the order of
their first entries. Only the name of the parent is something else. -/
structure Filled (heap : Array Object) (ref : Ref) (entries : List (HostValue × HostValue)) (object changed : Object) :
    Prop where
  kind : changed.kind = .ordinary
  guarded : Guarded object → Guarded changed
  parent : "__proto__" ∉ HostValue.names entries → changed.parent = object.parent
  keys : "__proto__" ∉ HostValue.names entries → changed.properties.keys = object.properties.keys ++
    ((HostValue.names entries).filter fun text => (object.properties.find? (.ofString text)).isNone).map Key.ofString
  others : ∀ key, (∀ text ∈ HostValue.names entries, key ≠ .ofString text) →
    changed.properties.find? key = object.properties.find? key
  last : ∀ text item, text ≠ "__proto__" → HostValue.lastWith text entries = some item →
    ∃ value, changed.properties.find? (.ofString text) = some (.plain value) ∧ item.Represents heap (ref + 1) value

def FillsObject (entries : List (HostValue × HostValue)) : Prop :=
  ∀ (machine : Machine) (ref : Ref) (object : Object), Furnished realm machine.heap machine.heap.size →
    realm.size ≤ ref → machine.heap[ref]? = some object → object.kind = .ordinary →
    Ends (fun _ after => Made realm (some ref) machine after (HostValue.entriesMemory entries) ∧
        ∃ changed, after.heap[ref]? = some changed ∧ Filled after.heap ref entries object changed)
      (fun _ => ¬ Affords machine (HostValue.entriesMemory entries))
      (@fillObject (engine methods (depth + 1)) ref entries machine)

theorem fillsArray_nil : FillsArray methods depth realm [] := by
  intro machine array done furnished low there
  refine .value () machine ⟨⟨furnished, Nat.le_refl _, fun _ _ _ => rfl, rfl, Nat.le_refl _, rfl, rfl⟩, [], ?_, rfl, nofun⟩
  rw [List.append_nil]
  exact there

theorem ends_append (untouched : Untouched methods realm) (machine : Machine) (array : Ref) (done : List Value)
    (value : Value) (furnished : Furnished realm machine.heap machine.heap.size) (low : realm.size ≤ array)
    (there : machine.heap[array]? = some (fullArray done.toArray)) (datum : IsDatum realm.size machine.heap.size value) :
    Ends (fun _ after => Made realm (some array) machine after propertySize ∧
        after.heap[array]? = some (fullArray (done ++ [value]).toArray)) (fun _ => False)
      (@Ref.put (engine methods (depth + 1)) array (.index done.length) value machine) := by
  obtain ⟨after, ended, changes, limit, charged, fixed⟩ :=
    @put_element (engine methods (depth + 1)) methods realm array value machine done.toArray untouched furnished low there
  rw [List.push_toArray] at changes
  have elements : IsDatumObject realm.size machine.heap.size array (fullArray (done ++ [value]).toArray) := by
    have before := elements_fullArray _ _ array done.toArray (datum_of_there realm machine.heap array _ furnished low there)
    refine isDatumObject_fullArray _ _ array _ fun other among => ?_
    obtain old | new := List.mem_append.1 (List.mem_toArray.1 among)
    · exact before other (List.mem_toArray.2 old)
    · rw [List.mem_singleton.1 new]
      exact datum
  exact .of_eq _ _ _ () after ended ⟨made_changes realm machine after array _ propertySize furnished low changes elements
    limit (Nat.le_of_eq charged) fixed, changes.here⟩

theorem fillsArray_cons (item : HostValue) (rest : List HostValue) (untouched : Untouched methods realm)
    (first : Converts methods depth realm item) (later : FillsArray methods depth realm rest) :
    FillsArray methods depth realm (item :: rest) := by
  intro start array done furnished low there
  have below := lt_of_there start.heap array _ there
  -- The memory for all items, as the parts take it one after another.
  have parts : HostValue.itemsMemory (item :: rest) =
      item.memory + (16 + (propertySize + HostValue.itemsMemory rest)) := by
    rw [HostValue.itemsMemory]
    omega
  rw [parts]
  refine ends_bind _ _ _ _ _ start ((first start furnished).weaken _ _ _ _ _ (fun _ _ good => good)
    fun _ short affords => short (affords.first start _ _)) ?_
  rintro value converted ⟨made, datum, represents⟩
  refine ends_bind _ _ _ _ _ converted ((ends_charge realm 16 converted made.furnished).weaken _ _ _ _ _
    (fun _ _ good => good) fun _ short affords => short ((made.affords realm none start converted _ _ affords).first _ _ _)) ?_
  intro _ paid charged
  have there' := charged.keeps realm none converted paid 16 array _ nofun
    (made.keeps realm none start converted _ array _ nofun there)
  refine ends_bind _ _ _ _ _ paid ((ends_append methods depth realm untouched paid array done value charged.furnished low
    there' (datum.mono _ _ _ _ value (Nat.le_refl _) charged.grows)).weaken _ _ _ _ _ (fun _ _ good => good)
    fun _ fails => fails.elim) ?_
  rintro _ put ⟨appended, there''⟩
  have ending := later put array (done ++ [value]) appended.furnished low there''
  rw [List.length_append] at ending
  have before := (made.trans realm none start converted paid _ _ charged).weaken realm (some array) start paid _
  refine ending.weaken _ _ _ _ _ ?_ fun _ short affords => short ?_
  · rintro _ last ⟨rest', added, final, length, each⟩
    have after := appended.trans realm (some array) paid put last _ _ rest'
    refine ⟨?_, value :: added, ?_, ?_, ?_⟩
    · rw [← Nat.add_assoc]
      exact before.trans realm (some array) start paid last _ _ after
    · rw [List.append_cons]
      exact final
    · rw [List.length_cons, List.length_cons, length]
    · intro index found found' same same'
      cases index with
      | zero =>
        cases same
        cases same'
        have onward := (charged.weaken realm (some array) converted paid 16).trans realm _ converted paid last _ _ after
        refine represents.mono converted.heap last.heap _ (array + 1) item value below fun ref object above there => ?_
        refine onward.keeps realm (some array) converted last _ ref object (fun same => ?_) there
        exact Nat.ne_of_gt (Nat.lt_of_lt_of_le below above) (Option.some.inj same)
      | succ index => exact each index found found' same same'
  · refine appended.affords realm (some array) paid put _ _ (before.affords realm (some array) start paid _ _ ?_)
    rw [← Nat.add_assoc] at affords
    exact affords

theorem fillsObject_nil : FillsObject methods depth realm [] := fun machine _ object furnished _ there kind =>
  .value () machine ⟨⟨furnished, Nat.le_refl _, fun _ _ _ => rfl, rfl, Nat.le_refl _, rfl, rfl⟩, object, there,
    ⟨kind, id, fun _ => rfl, fun _ => (List.append_nil _).symm, fun _ _ => rfl, nofun⟩⟩

theorem Filled.cons (heap : Array Object) (ref : Ref) (key item : HostValue) (rest : List (HostValue × HostValue))
    (value : Value) (object middle changed : Object) (before after : Machine)
    (assigned : Assigned realm before after ref object (.ofString key.keyText) value middle)
    (represents : item.Represents heap (ref + 1) value) (filled : Filled heap ref rest middle changed) :
    Filled heap ref ((key, item) :: rest) object changed := by
  have fresh (named : "__proto__" ∉ HostValue.names ((key, item) :: rest)) :
      Key.ofString key.keyText ≠ protoKey ∧ "__proto__" ∉ HostValue.names rest := by
    simp only [HostValue.names, List.mem_cons, List.mem_filter, decide_eq_true_eq, not_or, not_and, not_not] at named
    obtain ⟨other, later⟩ := named
    exact ⟨fun same => other ((Key.ofString_inj _ _).1 same).symm, fun among => other (later among)⟩
  refine ⟨filled.kind, fun guarded => filled.guarded (assigned.guarded guarded), ?_, ?_, ?_, ?_⟩
  · intro named
    obtain ⟨other, later⟩ := fresh named
    exact (filled.parent later).trans (assigned.plain other).1
  · intro named
    obtain ⟨other, later⟩ := fresh named
    have found (text : String) : (middle.properties.find? (.ofString text)).isNone =
        (decide (text ≠ key.keyText) && (object.properties.find? (.ofString text)).isNone) := by
      rw [(assigned.plain other).2]
      by_cases same : text = key.keyText
      · simp [same]
      · rw [if_neg fun equal => same ((Key.ofString_inj _ _).1 equal).symm]
        simp [same]
    rw [filled.keys later, assigned.names other, List.append_assoc]
    congr 1
    simp only [found, HostValue.names, List.filter_cons, List.filter_filter, Bool.and_comm]
    cases object.properties.find? (Key.ofString key.keyText) <;> simp
  · intro other apart
    simp only [HostValue.names, List.mem_cons, List.mem_filter, decide_eq_true_eq, forall_eq_or_imp, and_imp] at apart
    obtain ⟨first, later⟩ := apart
    rw [filled.others other fun text among same => ?_, assigned.others other first]
    by_cases equal : text = key.keyText
    · exact first (equal ▸ same)
    · exact later text among equal same
  · intro text found proper last
    rw [HostValue.lastWith] at last
    cases later : HostValue.lastWith text rest with
    | some other =>
      rw [later] at last
      cases last
      exact filled.last text found proper later
    | none =>
      rw [later] at last
      simp only [Option.ite_none_right_eq_some, Option.some.injEq] at last
      obtain ⟨rfl, rfl⟩ := last
      have absent : ∀ text ∈ HostValue.names rest, Key.ofString key.keyText ≠ .ofString text := by
        intro text among same
        rw [← (Key.ofString_inj _ _).1 same, ← HostValue.lastWith_isSome_iff, later] at among
        cases among
      refine ⟨value, ?_, represents⟩
      rw [filled.others _ absent, (assigned.plain fun same => proper ((Key.ofString_inj _ _).1 same)).2, if_pos rfl]

theorem Filled.represents (heap : Array Object) (low ref : Ref) (entries : List (HostValue × HostValue))
    (changed : Object) (later : low ≤ ref) (there : heap[ref]? = some changed)
    (filled : Filled heap ref entries bareObject changed) : (HostValue.map entries).Represents heap low (.object ref) := by
  refine .map low ref entries changed later there filled.kind (filled.guarded (.inl rfl)) filled.parent
    (fun named => ?_) filled.others (fun text item proper last => ?_) fun text item value proper last found => ?_
  · rw [filled.keys named]
    exact congrArg (List.map Key.ofString) (List.filter_eq_self.2 fun _ _ => rfl)
  · obtain ⟨value, found, -⟩ := filled.last text item proper last
    exact ⟨value, found⟩
  · obtain ⟨other, found', represents⟩ := filled.last text item proper last
    rw [found] at found'
    cases found'
    exact represents

theorem fillsObject_cons (key item : HostValue) (rest : List (HostValue × HostValue))
    (untouched : Untouched methods realm) (first : Converts methods depth realm item)
    (later : FillsObject methods depth realm rest) : FillsObject methods depth realm ((key, item) :: rest) := by
  intro start ref object furnished low there kind
  have below := lt_of_there start.heap ref _ there
  have parts : HostValue.entriesMemory ((key, item) :: rest) =
      item.memory + (propertySize + HostValue.entriesMemory rest) := by
    rw [HostValue.entriesMemory]
    omega
  rw [parts]
  refine ends_bind _ _ _ _ _ start ((first start furnished).weaken _ _ _ _ _ (fun _ _ good => good)
    fun _ short affords => short (affords.first start _ _)) ?_
  rintro value converted ⟨made, datum, represents⟩
  have there' := made.keeps realm none start converted _ ref _ nofun there
  refine ends_bind _ _ _ _ _ converted ((ends_put methods depth realm ref key.keyText value converted object untouched
    made.furnished low there' kind datum ?_).weaken _ _ _ _ _ (fun _ _ good => good) fun _ fails => fails.elim) ?_
  · rintro other rfl
    exact Nat.lt_of_lt_of_le below (represents.later converted.heap start.heap.size other item)
  rintro _ put ⟨changed, assigned⟩
  have set_ := made_changes realm converted put ref changed propertySize made.furnished low assigned.heap assigned.datum
    assigned.limit assigned.charged assigned.fixed
  have before := made.weaken realm (some ref) start converted _
  refine (later put ref changed set_.furnished low assigned.heap.here assigned.kind).weaken _ _ _ _ _ ?_
    fun _ short affords => short ?_
  · rintro _ last ⟨rest', final, there'', filled⟩
    have onward := set_.trans realm _ converted put last _ _ rest'
    refine ⟨before.trans realm _ start converted last _ _ onward, final, there'', ?_⟩
    refine filled.cons realm last.heap ref key item rest value object changed final converted put assigned ?_
    refine represents.mono converted.heap last.heap _ (ref + 1) item value below fun other object above there => ?_
    refine onward.keeps realm (some ref) converted last _ other object (fun same => ?_) there
    exact Nat.ne_of_gt (Nat.lt_of_lt_of_le below above) (Option.some.inj same)
  · exact set_.affords realm (some ref) converted put _ _ (before.affords realm (some ref) start converted _ _ affords)

theorem converts_list (items : List HostValue) (fills : FillsArray methods depth realm items) :
    Converts methods depth realm (.list items) := by
  intro start furnished
  have made := made_new realm start (fullArray #[]) furnished
    (isDatumObject_fullArray _ _ _ #[] fun value among => absurd among (Array.not_mem_empty value))
  have filled := fills _ start.heap.size [] made.furnished furnished.bound.1 Array.getElem?_push_size
  refine ends_bind (fun array after => array = start.heap.size ∧ after = { start with
    heap := start.heap.push (fullArray #[]), charged := start.charged + objectSize }) _ _ _ _ start
    (.value _ _ ⟨rfl, rfl⟩) ?_
  rintro _ _ ⟨rfl, rfl⟩
  refine ends_bind _ _ _ _ _ _ (filled.weaken _ _ _ _ _ (fun _ _ good => good)
    fun _ short affords => short (made.affords realm none start _ _ _ affords)) ?_
  rintro _ after ⟨made', added, there, length, each⟩
  exact .value _ after ⟨made.extend realm start _ after start.heap.size _ _ (Nat.le_refl _) made',
    ⟨furnished.bound.1, lt_of_there after.heap _ _ there⟩,
    .list start.heap.size start.heap.size items added (Nat.le_refl _) there length each⟩

theorem converts_map (entries : List (HostValue × HostValue)) (fills : FillsObject methods depth realm entries) :
    Converts methods depth realm (.map entries) := by
  intro start furnished
  have made := made_bare realm start furnished
  have filled := fills _ start.heap.size _ made.furnished furnished.bound.1 Array.getElem?_push_size rfl
  refine ends_bind (fun ref after => ref = start.heap.size ∧ after = { start with
    heap := start.heap.push bareObject, charged := start.charged + objectSize }) _ _ _ _ start (.value _ _ ⟨rfl, rfl⟩) ?_
  rintro _ _ ⟨rfl, rfl⟩
  refine ends_bind _ _ _ _ _ _ (filled.weaken _ _ _ _ _ (fun _ _ good => good)
    fun _ short affords => short (made.affords realm none start _ _ _ affords)) ?_
  rintro _ after ⟨made', object, there, filled⟩
  exact .value _ after ⟨made.extend realm start _ after start.heap.size _ _ (Nat.le_refl _) made',
    ⟨furnished.bound.1, lt_of_there after.heap _ _ there⟩,
    filled.represents _ _ _ entries object (Nat.le_refl _) there⟩

theorem converts_text (text : String) (value : HostValue)
    (converts : @toScript (engine methods (depth + 1)) value = newText (Units.ofString text))
    (size : value.memory = textSize (Units.ofString text))
    (represents : ∀ heap low, value.Represents heap low (.text (Units.ofString text))) :
    Converts methods depth realm value := by
  intro machine furnished
  rw [converts, size]
  refine (ends_newText realm machine (Units.ofString text) furnished).weaken _ _ _ _ _ ?_ fun _ short => short
  rintro _ after ⟨made, rfl⟩
  exact ⟨made, trivial, represents after.heap machine.heap.size⟩

theorem converts_plain (value : HostValue) (result : Value)
    (converts : @toScript (engine methods (depth + 1)) value = pure result)
    (datum : ∀ top, IsDatum realm.size top result)
    (represents : ∀ heap low, value.Represents heap low result) : Converts methods depth realm value := by
  intro machine furnished
  rw [converts]
  exact .value result machine ⟨⟨furnished, Nat.le_refl _, fun _ _ _ => rfl, rfl, Nat.le_add_right _ _, rfl, rfl⟩,
    datum machine.heap.size, represents machine.heap machine.heap.size⟩

mutual

/-- Every value of the host is converted, if the memory is enough. -/
theorem converts (untouched : Untouched methods realm) : ∀ value : HostValue, Converts methods depth realm value
  | .null => converts_plain methods depth realm .null .null rfl (fun _ => trivial) fun _ low => .null low
  | .boolean b => converts_plain methods depth realm _ (.boolean b) rfl (fun _ => trivial) fun _ low => .boolean low b
  | .integer n =>
    converts_plain methods depth realm _ _ rfl (fun top => isDatum_ofInteger _ top n) fun _ low => .integer low n
  | .float x => converts_plain methods depth realm _ _ rfl (fun top => isDatum_ofFloat _ top x) fun _ low => .float low x
  | .text content => converts_text methods depth realm content _ rfl rfl fun _ low => .text low content
  | .symbol name => converts_text methods depth realm name _ rfl rfl fun _ low => .symbol low name
  | .foreign shown => converts_text methods depth realm shown _ rfl rfl fun _ low => .foreign low shown
  | .list items => converts_list methods depth realm items (fillsArray untouched items)
  | .map entries => converts_map methods depth realm entries (fillsObject untouched entries)

theorem fillsArray (untouched : Untouched methods realm) : ∀ items : List HostValue, FillsArray methods depth realm items
  | [] => fillsArray_nil methods depth realm
  | item :: rest => fillsArray_cons methods depth realm item rest untouched (converts untouched item) (fillsArray untouched rest)

theorem fillsObject (untouched : Untouched methods realm) :
    ∀ entries : List (HostValue × HostValue), FillsObject methods depth realm entries
  | [] => fillsObject_nil methods depth realm
  | (key, item) :: rest =>
    fillsObject_cons methods depth realm key item rest untouched (converts untouched item) (fillsObject untouched rest)

end

end

end Marshal

end ScriptSandbox
