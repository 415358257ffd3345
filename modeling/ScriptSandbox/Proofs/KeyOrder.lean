import Mathlib.Data.List.Induction
import ScriptSandbox.Proofs.ByteOrder

/-!
What becomes of the entries of an object when it is read: of those with one key the last is kept, and the
kept ones are put in the order of the bytes of their keys. The reader does this by insertion.
-/

namespace ScriptSandbox.Json

def lastOfEach : List (String × α) → List (String × α)
  | [] => []
  | entry :: rest =>
    if rest.any fun later => later.1 == entry.1 then lastOfEach rest else entry :: lastOfEach rest

def inByteOrder (entries : List (String × α)) : List (String × α) :=
  (lastOfEach entries).mergeSort fun first second => decide (Text.bytes first.1 ≤ Text.bytes second.1)

def Ordered (entries : List (String × α)) : Prop := entries.Pairwise fun first second => first.1 < second.1

/-- What holds of the entries after one more is put to the end: it takes the place of the others of its
key. -/
def Takes (before after : List (String × α)) (entry : String × α) : Prop :=
  ∀ other, other ∈ after ↔ other = entry ∨ (other.1 ≠ entry.1 ∧ other ∈ before)

theorem mem_of_mem_lastOfEach (entries : List (String × α)) (entry : String × α)
    (among : entry ∈ lastOfEach entries) : entry ∈ entries := by
  induction entries with
  | nil => cases among
  | cons first rest ih =>
    rw [lastOfEach] at among
    split at among
    · exact List.mem_cons_of_mem _ (ih among)
    · obtain rfl | later := List.mem_cons.1 among
      · exact List.mem_cons_self
      · exact List.mem_cons_of_mem _ (ih later)

theorem takes_lastOfEach (entries : List (String × α)) (entry : String × α) :
    Takes (lastOfEach entries) (lastOfEach (entries ++ [entry])) entry := by
  intro other
  induction entries with
  | nil => simp [lastOfEach]
  | cons first rest ih =>
    rw [List.cons_append, lastOfEach, lastOfEach, List.any_append, List.any_cons, List.any_nil, Bool.or_false]
    by_cases hidden : (rest.any fun later => later.1 == first.1) = true
    · simp only [hidden, Bool.true_or, if_true]
      exact ih
    · by_cases replaced : entry.1 = first.1
      · have differs (same : other = first) : other.1 = entry.1 := by rw [same, replaced]
        simp only [hidden, replaced, beq_self_eq_true, Bool.or_true, if_true, Bool.false_eq_true, if_false,
          List.mem_cons]
        rw [ih, replaced]
        grind
      · simp only [hidden, beq_false_of_ne replaced, Bool.or_false, Bool.false_eq_true, if_false,
          List.mem_cons]
        rw [ih]
        grind

theorem lastOfEach_distinct (entries : List (String × α)) :
    (lastOfEach entries).Pairwise fun first second => first.1 ≠ second.1 := by
  induction entries with
  | nil => exact .nil
  | cons first rest ih =>
    rw [lastOfEach]
    split
    · exact ih
    · next unhidden =>
      refine .cons (fun later among same => unhidden ?_) ih
      rw [List.any_eq_true]
      exact ⟨later, mem_of_mem_lastOfEach rest later among, beq_iff_eq.2 same.symm⟩

/-! ### Insertion -/

theorem takes_insertEntry (key : String) (value : α) (entries : List (String × α)) (ordered : Ordered entries) :
    Takes entries (insertEntry key value entries) (key, value) := by
  intro entry
  induction entries with
  | nil => simp [insertEntry]
  | cons first rest ih =>
    obtain ⟨other, kept⟩ := first
    obtain ⟨front, later⟩ := List.pairwise_cons.1 ordered
    rw [insertEntry]
    split
    · next before =>
      -- All keys that are there are greater than the new one.
      have differs : ∀ entry ∈ (other, kept) :: rest, entry.1 ≠ key := by
        rintro entry among rfl
        obtain rfl | among := List.mem_cons.1 among
        · exact String.lt_irrefl _ before
        · exact String.lt_irrefl _ (String.lt_trans before (front entry among))
      rw [List.mem_cons]
      exact or_congr_right ⟨fun among => ⟨differs entry among, among⟩, And.right⟩
    split
    · next same =>
      have differs : ∀ entry ∈ rest, entry.1 ≠ key := by
        rintro entry among rfl
        exact String.lt_irrefl _ (lt_of_eq_of_lt same (front entry among))
      rw [List.mem_cons, List.mem_cons]
      constructor
      · rintro (rfl | among)
        · exact .inl rfl
        · exact .inr ⟨differs entry among, .inr among⟩
      · rintro (rfl | ⟨unlike, rfl | among⟩)
        · exact .inl rfl
        · exact absurd same.symm unlike
        · exact .inr among
    · next unlike =>
      rw [List.mem_cons, ih later, List.mem_cons]
      constructor
      · rintro (rfl | rfl | ⟨differs, among⟩)
        · exact .inr ⟨fun same => unlike same.symm, .inl rfl⟩
        · exact .inl rfl
        · exact .inr ⟨differs, .inr among⟩
      · rintro (rfl | ⟨differs, rfl | among⟩)
        · exact .inr (.inl rfl)
        · exact .inl rfl
        · exact .inr (.inr ⟨differs, among⟩)

theorem ordered_insertEntry (key : String) (value : α) (entries : List (String × α)) (ordered : Ordered entries) :
    Ordered (insertEntry key value entries) := by
  induction entries with
  | nil => exact List.pairwise_singleton _ _
  | cons first rest ih =>
    obtain ⟨other, kept⟩ := first
    obtain ⟨front, later⟩ := List.pairwise_cons.1 ordered
    rw [insertEntry]
    split
    · next before =>
      refine .cons (fun entry among => ?_) ordered
      obtain rfl | among := List.mem_cons.1 among
      · exact before
      · exact String.lt_trans before (front entry among)
    split
    · next same => exact .cons (fun entry among => lt_of_eq_of_lt same (front entry among)) later
    · next notBefore unlike =>
      refine .cons (fun entry among => ?_) (ih later)
      obtain rfl | ⟨-, among⟩ := (takes_insertEntry key value rest later entry).1 among
      · have behind : ¬ key < other := notBefore
        by_contra notLess
        exact unlike (Text.eq_of_not_lt key other behind notLess)
      · exact front entry among

theorem sortEntries_snoc (entries : List (String × α)) (entry : String × α) :
    sortEntries (entries ++ [entry]) = insertEntry entry.1 entry.2 (sortEntries entries) := by
  rw [sortEntries, List.foldl_append]
  rfl

theorem insertEntry_map (change : α → β) (key : String) (value : α) (entries : List (String × α)) :
    insertEntry key (change value) (entries.map fun entry => (entry.1, change entry.2)) =
      (insertEntry key value entries).map fun entry => (entry.1, change entry.2) := by
  induction entries with
  | nil => rfl
  | cons first rest ih =>
    obtain ⟨other, kept⟩ := first
    simp only [List.map_cons, insertEntry]
    rw [ih]
    split
    · rfl
    · split <;> rfl

theorem sortEntries_map (change : α → β) (entries : List (String × α)) :
    sortEntries (entries.map fun entry => (entry.1, change entry.2)) =
      (sortEntries entries).map fun entry => (entry.1, change entry.2) := by
  induction entries using List.reverseRec with
  | nil => rfl
  | append_singleton entries entry ih =>
    rw [List.map_append, List.map_singleton, sortEntries_snoc, sortEntries_snoc, ih]
    exact insertEntry_map change entry.1 entry.2 _

theorem ordered_sortEntries (entries : List (String × α)) : Ordered (sortEntries entries) := by
  induction entries using List.reverseRec with
  | nil => exact .nil
  | append_singleton entries entry ih =>
    rw [sortEntries_snoc]
    exact ordered_insertEntry entry.1 entry.2 _ ih

theorem mem_sortEntries (entries : List (String × α)) (entry : String × α) :
    entry ∈ sortEntries entries ↔ entry ∈ lastOfEach entries := by
  induction entries using List.reverseRec generalizing entry with
  | nil => exact Iff.rfl
  | append_singleton entries last ih =>
    rw [sortEntries_snoc, takes_insertEntry _ _ _ (ordered_sortEntries entries) entry,
      takes_lastOfEach entries last entry, ih]

/-! ### Both agree -/

theorem ordered_inByteOrder (entries : List (String × α)) : Ordered (inByteOrder entries) := by
  have sorted : (inByteOrder entries).Pairwise fun first second =>
      decide (Text.bytes first.1 ≤ Text.bytes second.1) = true := by
    refine List.pairwise_mergeSort (fun one two three before after => ?_) (fun one two => ?_) _
    · exact decide_eq_true (List.le_trans (of_decide_eq_true before) (of_decide_eq_true after))
    · rw [Bool.or_eq_true, decide_eq_true_eq, decide_eq_true_eq]
      exact List.le_total (Text.bytes one.1) (Text.bytes two.1)
  have distinct : (inByteOrder entries).Pairwise fun first second => first.1 ≠ second.1 :=
    ((List.mergeSort_perm _ _).pairwise_iff Ne.symm).2 (lastOfEach_distinct entries)
  refine sorted.imp₂ (fun first second upTo differs => ?_) distinct
  have notBehind : ¬ second.1 < first.1 := by
    rw [Text.lt_iff_bytes_lt, List.not_lt]
    exact of_decide_eq_true upTo
  by_contra notBefore
  exact differs (Text.eq_of_not_lt first.1 second.1 notBefore notBehind)

theorem eq_of_ordered (first second : List (String × α)) (ordered : Ordered first) (also : Ordered second)
    (same : ∀ entry, entry ∈ first ↔ entry ∈ second) : first = second := by
  have nodup (entries : List (String × α)) (ordered : Ordered entries) : entries.Nodup := by
    refine ordered.imp ?_
    rintro one _ less rfl
    exact String.lt_irrefl _ less
  have perm := (List.perm_ext_iff_of_nodup (nodup first ordered) (nodup second also)).2 same
  refine perm.eq_of_pairwise (fun one other _ _ before behind => ?_) ordered also
  exact absurd (String.lt_trans before behind) (String.lt_irrefl _)

/-- The reader puts entries in the order of the bytes of their keys, the last one of each key. -/
theorem sortEntries_eq (entries : List (String × α)) : sortEntries entries = inByteOrder entries := by
  refine eq_of_ordered _ _ (ordered_sortEntries entries) (ordered_inByteOrder entries) fun entry => ?_
  rw [mem_sortEntries, inByteOrder, List.mem_mergeSort]

theorem lastOfEach_of_ordered (entries : List (String × α)) (ordered : Ordered entries) :
    lastOfEach entries = entries := by
  induction entries with
  | nil => rfl
  | cons first rest ih =>
    obtain ⟨front, later⟩ := List.pairwise_cons.1 ordered
    rw [lastOfEach, if_neg, ih later]
    intro hidden
    obtain ⟨other, among, same⟩ := List.any_eq_true.1 hidden
    have less := front other among
    rw [beq_iff_eq.1 same] at less
    exact String.lt_irrefl _ less

theorem inByteOrder_of_ordered (entries : List (String × α)) (ordered : Ordered entries) :
    inByteOrder entries = entries := by
  refine eq_of_ordered _ _ (ordered_inByteOrder entries) ordered fun entry => ?_
  rw [inByteOrder, List.mem_mergeSort, lastOfEach_of_ordered entries ordered]

end ScriptSandbox.Json
