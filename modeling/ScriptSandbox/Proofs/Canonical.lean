import ScriptSandbox.CommandLine.Reading
import ScriptSandbox.HostValue.Json
import ScriptSandbox.Proofs.JsonReading
import ScriptSandbox.Proofs.KeyOrder

/-!
Host values by way of JSON. What comes back from the text of a value is its canonical form: symbols and
opaque values are texts, numbers that are not finite are nothing, and a map has the key texts for its keys,
each once, in the order of their bytes, with the value that was given last.
-/

namespace ScriptSandbox.HostValue

mutual

def canon : HostValue → HostValue
  | .null => .null
  | .boolean value => .boolean value
  | .integer value => .integer value
  | .float value => if value.isFinite then .float value else .null
  | .text value => .text value
  | .symbol name => .text name
  | .foreign shown => .text shown
  | .list items => .list (canonItems items)
  | .map entries => .map ((Json.inByteOrder (canonEntries entries)).map fun entry => (.text entry.1, entry.2))

def canonItems : List HostValue → List HostValue
  | [] => []
  | item :: rest => canon item :: canonItems rest

def canonEntries : List (HostValue × HostValue) → List (String × HostValue)
  | [] => []
  | (key, value) :: rest => (key.keyText, canon value) :: canonEntries rest

end

mutual

/-- A value that JSON can carry where so many levels may be opened: outside of keys its numbers are integers
of 64 bits or not finite, and its lists and maps nest no deeper. -/
def Portable : HostValue → (depth : Nat) → Prop
  | .integer n, _ => -0x8000000000000000 ≤ n ∧ n < 0x8000000000000000
  | .float x, _ => x.isFinite = false
  | .list items, depth => 0 < depth ∧ PortableItems items (depth - 1)
  | .map entries, depth => 0 < depth ∧ PortableEntries entries (depth - 1)
  | _, _ => True

def PortableItems : List HostValue → (depth : Nat) → Prop
  | [], _ => True
  | item :: rest, depth => item.Portable depth ∧ PortableItems rest depth

def PortableEntries : List (HostValue × HostValue) → (depth : Nat) → Prop
  | [], _ => True
  | (_, value) :: rest, depth => value.Portable depth ∧ PortableEntries rest depth

end

mutual

/-- A value whose integers outside of keys are of 64 bits, and whose lists and maps nest no deeper than so many
levels. -/
def Carried : HostValue → (depth : Nat) → Prop
  | .integer n, _ => -0x8000000000000000 ≤ n ∧ n < 0x8000000000000000
  | .list items, depth => 0 < depth ∧ CarriedItems items (depth - 1)
  | .map entries, depth => 0 < depth ∧ CarriedEntries entries (depth - 1)
  | _, _ => True

def CarriedItems : List HostValue → (depth : Nat) → Prop
  | [], _ => True
  | item :: rest, depth => item.Carried depth ∧ CarriedItems rest depth

def CarriedEntries : List (HostValue × HostValue) → (depth : Nat) → Prop
  | [], _ => True
  | (_, value) :: rest, depth => value.Carried depth ∧ CarriedEntries rest depth

end

mutual

/-- A value whose floating-point numbers outside of keys are not finite. -/
def Floatless : HostValue → Prop
  | .float x => x.isFinite = false
  | .list items => FloatlessItems items
  | .map entries => FloatlessEntries entries
  | _ => True

def FloatlessItems : List HostValue → Prop
  | [] => True
  | item :: rest => item.Floatless ∧ FloatlessItems rest

def FloatlessEntries : List (HostValue × HostValue) → Prop
  | [] => True
  | (_, value) :: rest => value.Floatless ∧ FloatlessEntries rest

end

mutual

theorem carried_of_portable : ∀ (value : HostValue) (depth : Nat), value.Portable depth →
    value.Carried depth ∧ value.Floatless
  | .null, _, _ => ⟨trivial, trivial⟩
  | .boolean _, _, _ => ⟨trivial, trivial⟩
  | .integer _, _, portable => ⟨portable, trivial⟩
  | .float _, _, portable => ⟨trivial, portable⟩
  | .text _, _, _ => ⟨trivial, trivial⟩
  | .symbol _, _, _ => ⟨trivial, trivial⟩
  | .foreign _, _, _ => ⟨trivial, trivial⟩
  | .list items, depth, portable =>
    ⟨⟨portable.1, (carried_of_portableItems items (depth - 1) portable.2).1⟩,
      (carried_of_portableItems items (depth - 1) portable.2).2⟩
  | .map entries, depth, portable =>
    ⟨⟨portable.1, (carried_of_portableEntries entries (depth - 1) portable.2).1⟩,
      (carried_of_portableEntries entries (depth - 1) portable.2).2⟩

theorem carried_of_portableItems : ∀ (items : List HostValue) (depth : Nat), PortableItems items depth →
    CarriedItems items depth ∧ FloatlessItems items
  | [], _, _ => ⟨trivial, trivial⟩
  | item :: rest, depth, portable =>
    ⟨⟨(carried_of_portable item depth portable.1).1, (carried_of_portableItems rest depth portable.2).1⟩,
      (carried_of_portable item depth portable.1).2, (carried_of_portableItems rest depth portable.2).2⟩

theorem carried_of_portableEntries : ∀ (entries : List (HostValue × HostValue)) (depth : Nat),
    PortableEntries entries depth → CarriedEntries entries depth ∧ FloatlessEntries entries
  | [], _, _ => ⟨trivial, trivial⟩
  | (_, value) :: rest, depth, portable =>
    ⟨⟨(carried_of_portable value depth portable.1).1, (carried_of_portableEntries rest depth portable.2).1⟩,
      (carried_of_portable value depth portable.1).2, (carried_of_portableEntries rest depth portable.2).2⟩

end

/-! ### The document of a value -/

mutual

theorem plain_toJson : ∀ (value : HostValue) (depth : Nat), value.Carried depth → value.toJson.Plain depth
  | .null, _, _ => trivial
  | .boolean _, _, _ => trivial
  | .integer n, _, carried => ⟨carried.1, Int.lt_trans carried.2 (by decide)⟩
  | .float x, depth, _ => by
    rw [toJson]
    split
    · next finite => exact finite
    · trivial
  | .text _, _, _ => trivial
  | .symbol _, _, _ => trivial
  | .foreign _, _, _ => trivial
  | .list items, depth, carried => ⟨carried.1, plain_itemsToJson items (depth - 1) carried.2⟩
  | .map entries, depth, carried => ⟨carried.1, plain_entriesToJson entries (depth - 1) carried.2⟩

theorem plain_itemsToJson : ∀ (items : List HostValue) (depth : Nat), CarriedItems items depth →
    Json.PlainItems (itemsToJson items) depth
  | [], _, _ => trivial
  | item :: rest, depth, carried => ⟨plain_toJson item depth carried.1, plain_itemsToJson rest depth carried.2⟩

theorem plain_entriesToJson : ∀ (entries : List (HostValue × HostValue)) (depth : Nat), CarriedEntries entries depth →
    Json.PlainEntries (entriesToJson entries) depth
  | [], _, _ => trivial
  | (_, value) :: rest, depth, carried =>
    ⟨plain_toJson value depth carried.1, plain_entriesToJson rest depth carried.2⟩

end

mutual

theorem floatless_toJson : ∀ value : HostValue, value.Floatless → value.toJson.Floatless
  | .null, _ => trivial
  | .boolean _, _ => trivial
  | .integer _, _ => trivial
  | .float x, floatless => by
    rw [toJson, if_neg (by rw [show x.isFinite = false from floatless]; exact Bool.false_ne_true)]
    trivial
  | .text _, _ => trivial
  | .symbol _, _ => trivial
  | .foreign _, _ => trivial
  | .list items, floatless => floatless_itemsToJson items floatless
  | .map entries, floatless => floatless_entriesToJson entries floatless

theorem floatless_itemsToJson : ∀ items : List HostValue, FloatlessItems items → Json.FloatlessItems (itemsToJson items)
  | [], _ => trivial
  | item :: rest, floatless => ⟨floatless_toJson item floatless.1, floatless_itemsToJson rest floatless.2⟩

theorem floatless_entriesToJson : ∀ entries : List (HostValue × HostValue), FloatlessEntries entries →
    Json.FloatlessEntries (entriesToJson entries)
  | [], _ => trivial
  | (_, value) :: rest, floatless => ⟨floatless_toJson value floatless.1, floatless_entriesToJson rest floatless.2⟩

end

theorem entriesOfJson_eq (entries : List (String × Json)) :
    entriesOfJson entries = entries.map fun entry => (.text entry.1, ofJson entry.2) := by
  induction entries with
  | nil => rfl
  | cons entry rest ih => rw [entriesOfJson, ih, List.map_cons]

mutual

theorem ofJson_tidy : ∀ (value : HostValue) (depth : Nat), value.Portable depth →
    ofJson value.toJson.tidy = value.canon
  | .null, _, _ => rfl
  | .boolean _, _, _ => rfl
  | .integer _, _, portable => if_pos portable
  | .float x, depth, portable => by
    rw [toJson, canon, show x.isFinite = false from portable]
    rfl
  | .text _, _, _ => rfl
  | .symbol _, _, _ => rfl
  | .foreign _, _, _ => rfl
  | .list items, depth, portable => by
    rw [toJson, Json.tidy, ofJson, canon, itemsOfJson_tidy items (depth - 1) portable.2]
  | .map entries, depth, portable => by
    have entry := entriesOfJson_tidy entries (depth - 1) portable.2
    rw [toJson, Json.tidy, ofJson, canon, entriesOfJson_eq, ← entry, ← Json.sortEntries_eq, Json.sortEntries_map,
      List.map_map]
    rfl

theorem itemsOfJson_tidy : ∀ (items : List HostValue) (depth : Nat), PortableItems items depth →
    itemsOfJson (Json.tidyItems (itemsToJson items)) = canonItems items
  | [], _, _ => rfl
  | item :: rest, depth, portable => by
    rw [itemsToJson, Json.tidyItems, itemsOfJson, canonItems, ofJson_tidy item depth portable.1,
      itemsOfJson_tidy rest depth portable.2]

theorem entriesOfJson_tidy : ∀ (entries : List (HostValue × HostValue)) (depth : Nat),
    PortableEntries entries depth →
    ((Json.tidyEntries (entriesToJson entries)).map fun entry => (entry.1, ofJson entry.2)) =
      canonEntries entries
  | [], _, _ => rfl
  | (key, value) :: rest, depth, portable => by
    rw [entriesToJson, Json.tidyEntries, List.map_cons, canonEntries, ofJson_tidy value depth portable.1,
      entriesOfJson_tidy rest depth portable.2]

end

/-! ### Canonical values -/

theorem canonEntries_text (entries : List (String × HostValue)) :
    canonEntries (entries.map fun entry => (.text entry.1, entry.2)) =
      entries.map fun entry => (entry.1, canon entry.2) := by
  induction entries with
  | nil => rfl
  | cons entry rest ih =>
    rw [List.map_cons, canonEntries, ih]
    rfl

mutual

theorem canon_canon : ∀ value : HostValue, value.canon.canon = value.canon
  | .null => rfl
  | .boolean _ => rfl
  | .integer _ => rfl
  | .float x => by
    cases finite : x.isFinite with
    | true => simp [canon, finite]
    | false => simp [canon, finite]
  | .text _ => rfl
  | .symbol _ => rfl
  | .foreign _ => rfl
  | .list items => by rw [canon, canon, canonItems_canonItems items]
  | .map entries => by
    have settled : ((Json.inByteOrder (canonEntries entries)).map fun entry => (entry.1, canon entry.2)) =
        Json.inByteOrder (canonEntries entries) := by
      refine (List.map_congr_left fun entry among => ?_).trans (List.map_id _)
      have given := Json.mem_of_mem_lastOfEach _ _ (List.mem_mergeSort.1 among)
      rw [canon_of_mem_canonEntries entries entry given]
      rfl
    rw [canon, canon, canonEntries_text, settled,
      Json.inByteOrder_of_ordered _ (Json.ordered_inByteOrder (canonEntries entries))]

theorem canonItems_canonItems : ∀ items : List HostValue, canonItems (canonItems items) = canonItems items
  | [] => rfl
  | item :: rest => by rw [canonItems, canonItems, canon_canon item, canonItems_canonItems rest]

theorem canon_of_mem_canonEntries : ∀ (entries : List (HostValue × HostValue)) (entry : String × HostValue),
    entry ∈ canonEntries entries → entry.2.canon = entry.2
  | [], _, among => nomatch among
  | (key, value) :: rest, entry, among => by
    obtain rfl | later := List.mem_cons.1 among
    · exact canon_canon value
    · exact canon_of_mem_canonEntries rest entry later

end

theorem readVariable_document (name : String) (text : String) (document : Json) (named : name ≠ "")
    (plain : '=' ∉ name.toList) (reads : Json.parse? text = some document) :
    Parameter.readVariable (name ++ "=" ++ text) = .ok (name, ofJson document) := by
  have chars : (name ++ "=" ++ text).toList = name.toList ++ '=' :: text.toList := by
    rw [String.toList_append, String.toList_append, List.append_assoc]
    rfl
  have front : (name.toList ++ '=' :: text.toList).takeWhile (· != '=') = name.toList := by
    rw [List.takeWhile_append_of_pos]
    · exact List.append_nil _
    · intro c among
      refine bne_iff_ne.2 fun same => plain ?_
      rwa [← same]
  have nonempty : name.toList.isEmpty = false := by
    cases chars : name.toList with
    | nil => exact absurd (String.toList_eq_nil_iff.1 chars) named
    | cons c more => rfl
  rw [Parameter.readVariable, chars, front, List.drop_left]
  simp only [nonempty, Bool.false_eq_true, if_false, String.ofList_toList, reads]

/-- The text of a value that JSON can carry is read back as the canonical form of the value, by itself and as
the value of a variable; and canonical forms stay as they are. -/
theorem canonical_of_document :
    (∀ value : HostValue, value.canon.canon = value.canon) ∧
    ∀ value : HostValue, value.Portable Json.maxDepth →
      (Json.parse? value.toJson.compact).map ofJson = some value.canon ∧
      ∀ name : String, name ≠ "" → '=' ∉ name.toList →
        Parameter.readVariable (name ++ "=" ++ value.toJson.compact) = .ok (name, value.canon) := by
  refine ⟨canon_canon, fun value portable => ?_⟩
  obtain ⟨carried, floatless⟩ := carried_of_portable value Json.maxDepth portable
  have reads := Json.parse_compact value.toJson (plain_toJson value Json.maxDepth carried)
  rw [Json.reread_of_floatless _ (floatless_toJson value floatless)] at reads
  have found := ofJson_tidy value Json.maxDepth portable
  constructor
  · rw [reads, Option.map_some, found]
  · intro name named plain
    rw [readVariable_document name _ _ named plain reads, found]

def collision : HostValue :=
  .map [(.integer 1, .boolean true), (.text "1", .list [.symbol "a"]), (.text "0", .null),
    (.symbol "1", .integer (-5))]

theorem canonical_of_collision :
    collision.Portable Json.maxDepth ∧ "x" ≠ "" ∧ '=' ∉ "x".toList ∧
      (Json.parse? collision.toJson.compact).map ofJson =
        some (.map [(.text "0", .null), (.text "1", .integer (-5))]) ∧
      Parameter.readVariable ("x" ++ "=" ++ collision.toJson.compact) =
        .ok ("x", .map [(.text "0", .null), (.text "1", .integer (-5))]) := by
  have portable : collision.Portable Json.maxDepth := by
    simp [collision, Portable, PortableEntries, PortableItems, Json.maxDepth]
  have canonical : collision.canon = .map [(.text "0", .null), (.text "1", .integer (-5))] := by
    have one : toString (1 : Int) = "1" := by decide
    have same : ¬("1" < "1") := by decide
    have before : "0" < "1" := by decide
    have after : ¬("1" < "0") := by decide
    have other : "1" ≠ "0" := by decide
    simp only [collision, canon, canonEntries, canonItems, ← Json.sortEntries_eq, Json.sortEntries,
      Json.insertEntry, keyText, display, one, List.foldl_cons, List.foldl_nil, List.map_cons, List.map_nil,
      if_neg same, if_pos before, if_neg after, if_neg other, if_true]
  have named : "x" ≠ "" := by decide
  have plain : '=' ∉ "x".toList := by decide
  have read := canonical_of_document.2 collision portable
  rw [canonical] at read
  exact ⟨portable, named, plain, read.1, read.2 "x" named plain⟩

end ScriptSandbox.HostValue
