import Mathlib.Data.List.Induction
import ScriptSandbox.Script.Heap

/-!
Tables of properties by name. A table with an index of positions is searched through it, any other one from
its end; as long as the index agrees with the search, what is found after a change depends on the names alone.
-/

namespace ScriptSandbox.Script.Properties

/-- The name at a position, if there is one. -/
def nameAt (entries : Array (Option (Key × Property))) (position : Nat) : Option Key :=
  (entries[position]?.join).map (·.1)

theorem positionIn_succ (entries : Array (Option (Key × Property))) (key : Key) (position : Nat) :
    positionIn entries key (position + 1) =
      if nameAt entries position = some key then some position else positionIn entries key position := by
  rw [positionIn, nameAt]
  cases entries[position]? with
  | none => exact (if_neg nofun).symm
  | some entry =>
    cases entry with
    | none => exact (if_neg nofun).symm
    | some entry =>
      change (if (entry.1 == key) = true then _ else _) = if some entry.1 = some key then _ else _
      simp only [beq_iff_eq, Option.some.injEq]

theorem nameAt_of_positionIn (entries : Array (Option (Key × Property))) (key : Key) (count position : Nat)
    (found : positionIn entries key count = some position) : nameAt entries position = some key := by
  induction count with
  | zero => cases found
  | succ count ih =>
    rw [positionIn_succ] at found
    by_cases last : nameAt entries count = some key
    · rw [if_pos last] at found
      rwa [← Option.some.inj found]
    · rw [if_neg last] at found
      exact ih found

theorem positionIn_congr (before after : Array (Option (Key × Property))) (key : Key) (count : Nat)
    (same : ∀ position < count, nameAt before position = nameAt after position) :
    positionIn before key count = positionIn after key count := by
  induction count with
  | zero => rfl
  | succ count ih =>
    rw [positionIn_succ, positionIn_succ, same count (Nat.lt_succ_self count),
      ih fun position less => same position (Nat.lt_succ_of_lt less)]

/-- The index of a table agrees with a search in it. -/
def Sound (properties : Properties) : Prop :=
  ∀ index, properties.index = some index → ∀ key,
    index[key]? = positionIn properties.entries key properties.entries.size

theorem position?_eq (properties : Properties) (key : Key) (sound : properties.Sound) :
    properties.position? key = positionIn properties.entries key properties.entries.size := by
  rw [position?]
  cases indexed : properties.index with
  | none => rfl
  | some index => exact sound index indexed key

theorem find?_eq (properties : Properties) (key : Key) :
    properties.find? key =
      (properties.position? key).bind fun position => properties.entries[position]?.join.map (·.2) := by
  rw [find?]
  cases properties.position? key with
  | none => rfl
  | some position =>
    rw [Option.bind_some]
    dsimp only
    cases properties.entries[position]? with
    | none => rfl
    | some entry => cases entry <;> rfl

theorem sound_empty : empty.Sound := nofun

theorem find?_empty (key : Key) : empty.find? key = none := rfl

theorem not_found_empty (key : Key) (property : Property) : ¬ empty.find? key = some property := by
  rw [find?_empty]
  intro found
  cases found

/-! ### Adding a property -/

theorem nameAt_push (entries : Array (Option (Key × Property))) (entry : Option (Key × Property)) (position : Nat)
    (less : position < entries.size) : nameAt (entries.push entry) position = nameAt entries position := by
  rw [nameAt, nameAt, Array.getElem?_push_lt less, Array.getElem?_eq_getElem less]

theorem positionIn_push (entries : Array (Option (Key × Property))) (entry : Option (Key × Property)) (key : Key) :
    positionIn (entries.push entry) key (entries.push entry).size =
      if entry.map (·.1) = some key then some entries.size else positionIn entries key entries.size := by
  have last : nameAt (entries.push entry) entries.size = entry.map (·.1) := by
    rw [nameAt, Array.getElem?_push_size]
    rfl
  rw [Array.size_push, positionIn_succ, positionIn_congr _ entries key entries.size (nameAt_push entries entry)]
  simp only [last]

theorem noted_entries (entries : List (Option (Key × Property))) (key : Key) :
    (entries.foldl noted (∅, 0)).2 = entries.length ∧
      (entries.foldl noted (∅, 0)).1[key]? = positionIn entries.toArray key entries.length := by
  induction entries using List.reverseRecOn with
  | nil => exact ⟨rfl, Std.HashMap.getElem?_empty⟩
  | append_singleton entries entry ih =>
    obtain ⟨counted, found⟩ := ih
    have pushed := positionIn_push entries.toArray entry key
    rw [List.push_toArray, List.size_toArray, List.size_toArray, ← found] at pushed
    rw [List.foldl_append, List.foldl_cons, List.foldl_nil, pushed]
    generalize entries.foldl noted (∅, 0) = state at *
    obtain ⟨index, position⟩ := state
    cases entry with
    | none => exact ⟨by rw [List.length_append, ← counted]; rfl, (if_neg nofun).symm⟩
    | some entry =>
      refine ⟨by rw [List.length_append, ← counted]; rfl, ?_⟩
      change (index.insert entry.1 position)[key]? = if some entry.1 = some key then _ else _
      simp only [Std.HashMap.getElem?_insert, beq_iff_eq, Option.some.injEq, ← counted]

theorem indexOf_eq (entries : Array (Option (Key × Property))) (key : Key) :
    (indexOf entries)[key]? = positionIn entries key entries.size := by
  rw [indexOf, ← Array.foldl_toList]
  exact (noted_entries entries.toList key).2

theorem lt_of_nameAt (entries : Array (Option (Key × Property))) (key : Key) (position : Nat)
    (named : nameAt entries position = some key) : position < entries.size := by
  by_contra beyond
  rw [nameAt, Array.getElem?_eq_none (Nat.not_lt.1 beyond)] at named
  cases named

theorem nameAt_set (entries : Array (Option (Key × Property))) (key : Key) (property : Property)
    (position other : Nat) (named : nameAt entries position = some key) :
    nameAt (entries.setIfInBounds position (some (key, property))) other = nameAt entries other := by
  by_cases here : position = other
  · subst here
    have less := lt_of_nameAt entries key position named
    rw [named, nameAt, Array.getElem?_setIfInBounds_self_of_lt less]
    rfl
  · rw [nameAt, nameAt, Array.getElem?_setIfInBounds_ne here]

theorem nameAt_of_position? (properties : Properties) (key : Key) (position : Nat) (sound : properties.Sound)
    (found : properties.position? key = some position) : nameAt properties.entries position = some key := by
  rw [position?_eq properties key sound] at found
  exact nameAt_of_positionIn _ key _ position found

theorem position?_of_names (before after : Properties) (index : after.index = before.index)
    (size : after.entries.size = before.entries.size)
    (names : ∀ position, nameAt after.entries position = nameAt before.entries position) (sound : before.Sound) :
    after.Sound ∧ ∀ key, after.position? key = before.position? key := by
  have same (key : Key) : positionIn after.entries key after.entries.size =
      positionIn before.entries key before.entries.size := by
    rw [size]
    exact positionIn_congr _ _ key _ fun position _ => names position
  have sound' : after.Sound := by
    intro found indexed key
    rw [index] at indexed
    rw [same key]
    exact sound found indexed key
  refine ⟨sound', fun key => ?_⟩
  rw [position?_eq after key sound', position?_eq before key sound, same key]

theorem position?_ne (properties : Properties) (key other : Key) (position place : Nat) (sound : properties.Sound)
    (found : properties.position? key = some position) (found' : properties.position? other = some place)
    (different : key ≠ other) : position ≠ place := by
  intro here
  have named := nameAt_of_position? properties key position sound found
  rw [here, nameAt_of_position? properties other place sound found'] at named
  exact different (Option.some.inj named).symm

theorem insert_of_some (properties : Properties) (key : Key) (property : Property) (position : Nat)
    (sound : properties.Sound) (found : properties.position? key = some position) :
    (properties.insert key property).Sound ∧ ∀ other,
      (properties.insert key property).find? other = if key = other then some property else properties.find? other := by
  have named := nameAt_of_position? properties key position sound found
  have changed : properties.insert key property =
      { properties with entries := properties.entries.setIfInBounds position (some (key, property)) } := by
    rw [insert, found]
  obtain ⟨sound', kept⟩ := position?_of_names properties (properties.insert key property) (by rw [changed])
    (by rw [changed, Array.size_setIfInBounds])
    (fun place => by rw [changed]; exact nameAt_set properties.entries key property position place named) sound
  refine ⟨sound', fun other => ?_⟩
  rw [find?_eq, kept, find?_eq, changed]
  by_cases equal : key = other
  · subst equal
    have less := lt_of_nameAt _ key position named
    rw [if_pos rfl, found]
    change (properties.entries.setIfInBounds position (some (key, property)))[position]?.join.map (·.2) = some property
    rw [Array.getElem?_setIfInBounds_self_of_lt less]
    rfl
  · rw [if_neg equal]
    cases place : properties.position? other with
    | none => rfl
    | some place' =>
      have apart := position?_ne properties key other position place' sound found place equal
      change (properties.entries.setIfInBounds position (some (key, property)))[place']?.join.map (·.2) = _
      rw [Array.getElem?_setIfInBounds_ne apart]
      rfl

theorem setValueAt_of_some (properties : Properties) (key : Key) (value : Value) (position : Nat)
    (sound : properties.Sound) (found : properties.position? key = some position) :
    (properties.setValueAt position value).Sound ∧ ∀ other,
      (properties.setValueAt position value).find? other =
        if key = other then (properties.find? key).map fun property => { property with content := .value value }
        else properties.find? other := by
  have touched (place : Nat) : (properties.setValueAt position value).entries[place]? =
      if position = place then properties.entries[place]?.map (Option.map fun entry =>
        (entry.1, { entry.2 with content := .value value })) else properties.entries[place]? := by
    rw [setValueAt, Array.getElem?_modify]
    refine if_congr Iff.rfl (congrArg (fun change => Option.map change _) ?_) rfl
    funext entry
    cases entry <;> rfl
  have names (place : Nat) : nameAt (properties.setValueAt position value).entries place =
      nameAt properties.entries place := by
    rw [nameAt, touched, nameAt]
    split
    · cases properties.entries[place]? with
      | none => rfl
      | some entry => cases entry <;> rfl
    · rfl
  obtain ⟨sound', kept⟩ := position?_of_names properties (properties.setValueAt position value) rfl
    (Array.size_modify) names sound
  refine ⟨sound', fun other => ?_⟩
  rw [find?_eq, kept, find?_eq, find?_eq]
  by_cases equal : key = other
  · subst equal
    rw [if_pos rfl, found]
    change (properties.setValueAt position value).entries[position]?.join.map (·.2) =
      (properties.entries[position]?.join.map (·.2)).map _
    rw [touched, if_pos rfl]
    cases properties.entries[position]? with
    | none => rfl
    | some entry => cases entry <;> rfl
  · rw [if_neg equal]
    cases place : properties.position? other with
    | none => rfl
    | some place' =>
      change (properties.setValueAt position value).entries[place']?.join.map (·.2) = _
      rw [touched, if_neg (position?_ne properties key other position place' sound found place equal)]
      rfl

theorem entries_insert_of_none (properties : Properties) (key : Key) (property : Property)
    (missing : properties.position? key = none) :
    (properties.insert key property).entries = properties.entries.push (some (key, property)) := by
  rw [insert, missing]
  cases properties.index with
  | some index => rfl
  | none =>
    change (if indexedFrom < (properties.entries.push (some (key, property))).size then _ else _ : Properties).entries = _
    split <;> rfl

theorem insert_of_none (properties : Properties) (key : Key) (property : Property)
    (sound : properties.Sound) (missing : properties.position? key = none) :
    (properties.insert key property).Sound ∧ ∀ other,
      (properties.insert key property).find? other = if key = other then some property else properties.find? other := by
  have entries := entries_insert_of_none properties key property missing
  have sound' : (properties.insert key property).Sound := by
    intro index indexed other
    rw [entries]
    rw [insert, missing] at indexed
    cases before : properties.index with
    | some old =>
      rw [before] at indexed
      have same : old.insert key properties.entries.size = index := Option.some.inj indexed
      rw [← same, Std.HashMap.getElem?_insert, positionIn_push, sound old before other]
      simp only [beq_iff_eq, Option.map_some, Option.some.injEq]
    | none =>
      rw [before] at indexed
      change (if indexedFrom < (properties.entries.push (some (key, property))).size then _ else _ : Properties).index =
        some index at indexed
      by_cases large : indexedFrom < (properties.entries.push (some (key, property))).size
      · rw [if_pos large] at indexed
        rw [← Option.some.inj indexed]
        exact indexOf_eq _ other
      · rw [if_neg large] at indexed
        cases indexed
  refine ⟨sound', fun other => ?_⟩
  have placed : (properties.insert key property).position? other =
      if key = other then some properties.entries.size else properties.position? other := by
    rw [position?_eq _ other sound', entries, positionIn_push, position?_eq _ other sound]
    simp only [Option.map_some, Option.some.injEq]
  rw [find?_eq, placed, find?_eq, entries]
  by_cases equal : key = other
  · rw [if_pos equal, if_pos equal]
    change (properties.entries.push (some (key, property)))[properties.entries.size]?.join.map (·.2) = some property
    rw [Array.getElem?_push_size]
    rfl
  · rw [if_neg equal, if_neg equal]
    cases place : properties.position? other with
    | none => rfl
    | some place' =>
      have less := lt_of_nameAt _ other place' (nameAt_of_position? properties other place' sound place)
      change (properties.entries.push (some (key, property)))[place']?.join.map (·.2) = _
      rw [Array.getElem?_push_lt less]
      change _ = properties.entries[place']?.join.map (·.2)
      rw [Array.getElem?_eq_getElem less]

theorem sound_insert (properties : Properties) (key : Key) (property : Property) (sound : properties.Sound) :
    (properties.insert key property).Sound := by
  cases found : properties.position? key with
  | none => exact (insert_of_none properties key property sound found).1
  | some position => exact (insert_of_some properties key property position sound found).1

/-- What is found after setting a property. -/
theorem find?_insert (properties : Properties) (key other : Key) (property : Property) (sound : properties.Sound) :
    (properties.insert key property).find? other =
      if key = other then some property else properties.find? other := by
  cases found : properties.position? key with
  | none => exact (insert_of_none properties key property sound found).2 other
  | some position => exact (insert_of_some properties key property position sound found).2 other

theorem find?_single (own key : Key) (property : Property) :
    (empty.insert own property).find? key = if own = key then some property else none := by
  rw [find?_insert _ _ key _ sound_empty, find?_empty]

/-! ### Names in order -/

def listed : Option Key → Option Key
  | some (.secret _) => none
  | name => name

theorem keys_eq (properties : Properties) :
    properties.keys = (properties.entries.toList.map (Option.map (·.1))).filterMap listed := by
  rw [keys, List.filterMap_map]
  congr 1
  funext entry
  rcases entry with _ | ⟨key, property⟩
  · rfl
  · cases key <;> rfl

theorem keys_insert_of_none (properties : Properties) (key : Key) (property : Property)
    (missing : properties.position? key = none) (open_ : ∀ id, key ≠ .secret id) :
    (properties.insert key property).keys = properties.keys ++ [key] := by
  have listed_ : listed (some key) = some key := by
    cases key with
    | secret id => exact absurd rfl (open_ id)
    | _ => rfl
  have entries := entries_insert_of_none properties key property missing
  rw [keys_eq, keys_eq, entries, Array.toList_push, List.map_append, List.filterMap_append]
  simp [listed_]

theorem keys_setValueAt (properties : Properties) (position : Nat) (value : Value) :
    (properties.setValueAt position value).keys = properties.keys := by
  rw [keys_eq, keys_eq, setValueAt]
  congr 1
  apply List.ext_getElem?
  intro place
  simp only [List.getElem?_map, Array.getElem?_toList, Array.getElem?_modify]
  split
  · rcases properties.entries[place]? with _ | _ | entry <;> rfl
  · rfl

theorem position?_of_missing (properties : Properties) (key : Key) (sound : properties.Sound)
    (missing : properties.find? key = none) : properties.position? key = none := by
  cases found : properties.position? key with
  | none => rfl
  | some position =>
    have named := nameAt_of_position? properties key position sound found
    rw [find?_eq, found] at missing
    rw [nameAt] at named
    change properties.entries[position]?.join.map (·.2) = none at missing
    cases there : properties.entries[position]?.join with
    | none =>
      rw [there] at named
      cases named
    | some entry =>
      rw [there] at missing
      cases missing

end ScriptSandbox.Script.Properties
