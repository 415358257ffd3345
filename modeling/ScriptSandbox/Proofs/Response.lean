import ScriptSandbox.Proofs.ObjectGraph
import ScriptSandbox.Proofs.Returning

/-!
The object that a script gets for an answer of the host. As long as no script has changed the prototypes, it is
the faithful image of a map with five entries, where what the answer leaves out has its default.
-/

namespace ScriptSandbox

open Script Script.Execution

theorem ofInt_eq (n : Int) : Value.ofInt n = Marshal.ofInteger n := by
  rw [Value.ofInt, Marshal.ofInteger]
  by_cases fits : fitsInteger n = true
  · rw [if_pos fits, if_pos fits]
  · rw [if_neg fits, if_neg fits, HostValue.ofFloat_ofInt n (Bool.not_eq_true _ ▸ fits)]

def Only (object : Object) (texts : List String) : Prop :=
  ∀ text ∉ texts, object.properties.find? (.ofString text) = none

theorem put_fresh [Engine] (methods : Array Method) (realm : Array Object) (ref : Ref) (text : String) (value : Value)
    (machine : Machine) (object : Object) (texts : List String) (untouched : Untouched methods realm)
    (furnished : Furnished realm machine.heap machine.heap.size) (low : realm.size ≤ ref)
    (there : machine.heap[ref]? = some object) (kind : object.kind = .ordinary)
    (simple : IsDatum realm.size machine.heap.size value) (proper : text ≠ "__proto__") (only : Only object texts)
    (fresh : text ∉ texts) : ∃ after changed,
    ref.put (.ofString text) value machine = .done (.value () after) ∧
      Assigned realm machine after ref object (.ofString text) value changed ∧
      Made realm (some ref) machine after propertySize ∧ Only changed (text :: texts) := by
  have free : Free machine.heap (.ofString text) ref := by
    obtain free | ⟨parent, -⟩ := free_or_parent methods realm machine.heap (.ofString text) ref untouched furnished
      (asked_ofString text) (.inr (.inr ⟨low, lt_of_there machine.heap ref object there⟩))
    · exact free
    · exact absurd ((Key.ofString_inj _ _).1 parent) proper
  obtain ⟨after, changed, put, assigned⟩ := put_free methods realm ref (.ofString text) value machine object untouched
    furnished low there kind (Key.isSymbol_ofString text) (Key.ofString_ne_secret text) simple (only text fresh) free
  refine ⟨after, changed, put, assigned, made_changes realm machine after ref changed propertySize furnished low
    assigned.heap assigned.datum assigned.limit assigned.charged assigned.fixed, fun other missing => ?_⟩
  rw [List.mem_cons, not_or] at missing
  obtain ⟨different, missing⟩ := missing
  exact (assigned.others _ fun same => different ((Key.ofString_inj _ _).1 same)).trans (only other missing)

namespace Primitives

def responseEntries (response : HttpResponse) : List (HostValue × HostValue) :=
  [(.text "status", .integer (response.status.getD 200)),
    (.text "statusText", .text (response.statusText.getD "OK")),
    (.text "ok", .boolean (isSuccess (response.status.getD 200))),
    (.text "body", .text (response.body.getD "")),
    (.text "headers", .map [])]

theorem not_namesParent_responseEntries (response : HttpResponse) :
    ¬ (HostValue.map (responseEntries response)).NamesParent := by
  intro named
  cases named with
  | here _ among =>
    have named : "__proto__" ∈ (responseEntries response).map fun entry => entry.1.keyText :=
      List.mem_map.2 ((HostValue.mem_names_iff _ _).1 among)
    have texts : ((responseEntries response).map fun entry => entry.1.keyText) =
        ["status", "statusText", "ok", "body", "headers"] := rfl
    rw [texts] at named
    exact absurd named (by decide)
  | entry _ text item last inside =>
    obtain ⟨entry, among, -, rfl⟩ := HostValue.mem_of_lastWith text _ _ last
    fin_cases among
    iterate 4 cases inside
    cases inside with
    | here _ among => cases among
    | entry _ text item last => cases last

/-- With the prototypes as they were, an answer becomes a new object, and nothing else changes. -/
theorem responseObject_mirrors [Engine] (methods : Array Method) (response : HttpResponse) (machine : Machine)
    (untouched : Untouched methods machine.heap) : ∃ after,
    responseObject response machine = .done (.value (.object machine.heap.size) after) ∧
      (∀ ref < machine.heap.size, after.heap[ref]? = machine.heap[ref]?) ∧
      (HostValue.map (responseEntries response)).Mirrors after.heap (.object machine.heap.size) := by
  have low := Nat.le_refl machine.heap.size
  have new := made_bare machine.heap machine (furnished_self machine.heap)
  have none_ : Only bareObject [] := fun text _ => Properties.find?_empty _
  obtain ⟨first, object₁, put₁, assigned₁, made₁, only₁⟩ := put_fresh methods machine.heap machine.heap.size "status"
    (.ofInt (response.status.getD 200)) _ bareObject [] untouched new.furnished low Array.getElem?_push_size rfl
    (by rw [ofInt_eq]; exact isDatum_ofInteger _ _ _) (by decide) none_ (by decide)
  obtain ⟨second, object₂, put₂, assigned₂, made₂, only₂⟩ := put_fresh methods machine.heap machine.heap.size
    "statusText" (.ofString (response.statusText.getD "OK")) first object₁ _ untouched made₁.furnished low
    assigned₁.heap.here assigned₁.kind trivial (by decide) only₁ (by decide)
  obtain ⟨third, object₃, put₃, assigned₃, made₃, only₃⟩ := put_fresh methods machine.heap machine.heap.size "ok"
    (.boolean (isSuccess (response.status.getD 200))) second object₂ _ untouched made₂.furnished low
    assigned₂.heap.here assigned₂.kind trivial (by decide) only₂ (by decide)
  obtain ⟨fourth, object₄, put₄, assigned₄, made₄, only₄⟩ := put_fresh methods machine.heap machine.heap.size "body"
    (.ofString (response.body.getD "")) third object₃ _ untouched made₃.furnished low assigned₃.heap.here
    assigned₃.kind trivial (by decide) only₃ (by decide)
  have headers := made_bare machine.heap fourth made₄.furnished
  have there := headers.keeps machine.heap none fourth _ _ machine.heap.size object₄ nofun assigned₄.heap.here
  obtain ⟨last, object₅, put₅, assigned₅, made₅, only₅⟩ := put_fresh methods machine.heap machine.heap.size "headers"
    (.object fourth.heap.size) _ object₄ _ untouched headers.furnished low there assigned₄.kind
    ⟨made₄.furnished.bound.1, by simp⟩ (by decide) only₄ (by decide)
  have ran : responseObject response machine = .done (.value (.object machine.heap.size) last) := by
    refine (bind_value (newObject .ordinary .objectPrototype) _ machine _ machine.heap.size rfl).trans ?_
    refine (bind_value _ _ _ first () put₁).trans ?_
    refine (bind_value _ _ first second () put₂).trans ?_
    refine (bind_value _ _ second third () put₃).trans ?_
    refine (bind_value _ _ third fourth () put₄).trans ?_
    refine (bind_value (newObject .ordinary .objectPrototype) _ fourth _ fourth.heap.size rfl).trans ?_
    exact bind_value _ _ _ last () put₅
  have upToBody := ((made₁.trans _ _ _ _ _ _ _ made₂).trans _ _ _ _ _ _ _ made₃).trans _ _ _ _ _ _ _ made₄
  have further := (upToBody.trans _ _ _ _ _ _ _ (headers.weaken _ _ _ _ _)).trans _ _ _ _ _ _ _ made₅
  have whole := new.extend machine.heap machine _ last machine.heap.size _ _ low further
  have above : machine.heap.size < fourth.heap.size := lt_of_there fourth.heap _ _ assigned₄.heap.here
  have bare : last.heap[fourth.heap.size]? = some bareObject :=
    made₅.keeps _ _ _ _ _ _ _ (fun same => Nat.ne_of_gt above (Option.some.inj same)) Array.getElem?_push_size
  have nothing (object : Object) (kind : object.kind = .ordinary) (ref : Ref) :
      Marshal.Filled last.heap ref [] object object :=
    ⟨kind, id, fun _ => rfl, fun _ => (List.append_nil _).symm, fun _ _ => rfl, nofun⟩
  have empty : (HostValue.map []).Represents last.heap (machine.heap.size + 1) (.object fourth.heap.size) :=
    (nothing bareObject rfl _).represents _ _ _ [] bareObject above bare
  have number : (HostValue.integer (response.status.getD 200)).Represents last.heap (machine.heap.size + 1)
      (.ofInt (response.status.getD 200)) := by
    rw [ofInt_eq]
    exact .integer _ _
  have filled : Marshal.Filled last.heap machine.heap.size (responseEntries response) bareObject object₅ := by
    refine .cons machine.heap _ _ _ _ _ _ _ object₁ _ _ _ assigned₁ number ?_
    refine .cons machine.heap _ _ _ _ _ _ _ object₂ _ _ _ assigned₂ (.text _ _) ?_
    refine .cons machine.heap _ _ _ _ _ _ _ object₃ _ _ _ assigned₃ (.boolean _ _) ?_
    refine .cons machine.heap _ _ _ _ _ _ _ object₄ _ _ _ assigned₄ (.text _ _) ?_
    exact .cons machine.heap _ _ _ _ _ _ _ object₅ _ _ _ assigned₅ empty (nothing object₅ assigned₅.kind _)
  refine ⟨last, ran, fun ref less => whole.kept ref less nofun, ?_⟩
  exact HostValue.mirrors_of_represents last.heap machine.heap.size _ _
    (filled.represents _ _ _ _ object₅ low assigned₅.heap.here) (not_namesParent_responseEntries response)

end Primitives

end ScriptSandbox
