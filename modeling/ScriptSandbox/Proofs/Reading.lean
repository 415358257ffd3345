import ScriptSandbox.Proofs.Doubles
import ScriptSandbox.Proofs.Representation
import ScriptSandbox.Proofs.Unfolding

/-!
Reading what represents a value of the host. Arrays give their length and their elements, and a map gives the
text of any object: the conversion to a text finds the functions of the prototypes, and these look no further.
None of this changes anything.
-/

namespace ScriptSandbox

open Script Script.Execution

namespace Script

section

variable (ref : Ref) (machine : Machine)

theorem isArray_of_array (object : Object) (elements : Array Value) (length : Nat) (fixedLength : Bool)
    (there : machine.heap[ref]? = some object) (kind : object.kind = .array elements length fixedLength) :
    (Value.object ref).isArray machine = .done (.value true machine) := by
  refine (bind_value (kindOf ref) _ machine machine _ (kindOf_of_there ref object machine there)).trans ?_
  rw [kind]
  rfl

theorem isArray_of_ordinary (object : Object) (there : machine.heap[ref]? = some object)
    (kind : object.kind = .ordinary) : (Value.object ref).isArray machine = .done (.value false machine) := by
  refine (bind_value (kindOf ref) _ machine machine _ (kindOf_of_there ref object machine there)).trans ?_
  rw [kind]
  rfl

theorem get_of_found [Engine] (key : Key) (property : Property) (holder : Ref) (value : Value)
    (found : lookup machine.heap key longestChain ref = .property property holder)
    (content : property.content = .value value) : (Value.object ref).get key machine = .done (.value value machine) := by
  change getFrom key (.object ref) (999 + 1) ref machine = _
  rw [getFrom_of_lookup, found]
  change readProperty property (.object ref) machine = _
  rw [readProperty, content]
  rfl

theorem get_of_missing [Engine] (key : Key) (missing : lookup machine.heap key longestChain ref = .missing) :
    (Value.object ref).get key machine = .done (.value .undefined machine) := by
  change getFrom key (.object ref) (999 + 1) ref machine = _
  rw [getFrom_of_lookup, missing]

end

/-! ### Arrays -/

section

variable [Engine] (ref : Ref) (machine : Machine) (elements : Array Value)
  (there : machine.heap[ref]? = some (fullArray elements))

include there

theorem get_element (index : Nat) (value : Value) (found : elements[index]? = some value) (proper : value ≠ .absent) :
    (Value.object ref).get (.index index) machine = .done (.value value machine) := by
  refine get_of_found ref machine (.index index) (.plain value) ref value ?_ rfl
  rw [longestChain, lookup_of_there machine.heap _ 99999 ref _ there (.inr ⟨_, _, _, rfl⟩),
    own_element machine.heap _ elements elements.size index false value rfl found proper]

theorem get_length : (Value.object ref).get lengthKey machine = .done (.value (.ofNat elements.size) machine) := by
  refine get_of_found ref machine lengthKey
    { content := .value (.ofNat elements.size), writable := true, enumerable := false, configurable := false } ref _ ?_ rfl
  rw [longestChain, lookup_of_there machine.heap _ 99999 ref _ there (.inr ⟨_, _, _, rfl⟩),
    own_length machine.heap _ elements elements.size false rfl]
  rfl

end

theorem truncate_of_whole (x : Float) (n : Int) (whole : Double.whole? x = some n) : Number.truncate x = n := by
  cases decoded : Binary.ofBits? x.toBits with
  | none =>
    rw [Double.whole?, decoded] at whole
    cases whole
  | some binary =>
    rw [Double.whole?_eq x binary decoded] at whole
    obtain ⟨size, measured, same⟩ := Option.map_eq_some_iff.1 whole
    have cut : (if 0 ≤ binary.exponent then binary.significand * Nat.pow 2 binary.exponent.toNat
        else binary.significand / Nat.pow 2 (-binary.exponent).toNat) = size := by
      rw [Double.size?] at measured
      by_cases large : 0 ≤ binary.exponent
      · rw [if_pos large] at measured ⊢
        exact Option.some.inj measured
      · rw [if_neg large] at measured ⊢
        by_cases even : binary.significand % Nat.pow 2 (-binary.exponent).toNat = 0
        · exact Option.some.inj ((if_pos even).symm.trans measured)
        · cases (if_neg even).symm.trans measured
    rw [Number.truncate, decoded, ← same]
    simp only [cut]

theorem toLength_ofNat [Engine] (n : Nat) (bound : n ≤ Value.longest) (machine : Machine) :
    (Value.ofNat n).toLength machine = .done (.value n machine) := by
  rw [Value.ofNat, Value.ofInt]
  by_cases fits : fitsInteger n = true
  · rw [if_pos fits]
    change Dialogue.done (Outcome.value (Int.ofNat n).toNat machine) = _
    rfl
  · rw [if_neg fits]
    have short : (n : Int).natAbs < 2 ^ 53 := Nat.lt_of_le_of_lt bound (by decide)
    have whole := Double.whole?_ofInt_short n short
    have finite : (Double.ofInt n).toBits ≠ 0x7FF0000000000000 := by
      intro infinite
      have none_ : Binary.ofBits? 0x7FF0000000000000 = none := by decide
      rw [Double.whole?, infinite, none_] at whole
      cases whole
    change (if (Double.ofInt n).toBits == 0x7FF0000000000000 then pure Value.longest
      else pure (min (Number.truncate (Double.ofInt n)).toNat Value.longest) : Execution Nat) machine = _
    rw [if_neg (by rw [beq_iff_eq]; exact finite), truncate_of_whole _ _ whole, Int.toNat_natCast, Nat.min_eq_left bound]
    rfl

theorem lengthOf_fullArray [Engine] (ref : Ref) (machine : Machine) (elements : Array Value)
    (there : machine.heap[ref]? = some (fullArray elements)) (bound : elements.size ≤ Value.longest) :
    lengthOf (.object ref) machine = .done (.value elements.size machine) :=
  (bind_value ((Value.object ref).get lengthKey) _ machine machine _ (get_length ref machine elements there)).trans
    (toLength_ofNat elements.size bound machine)

/-! ### Plain objects -/

structure Usual (object : Object) : Prop where
  kind : object.kind = .ordinary
  parent : object.parent = some Intrinsic.objectPrototype.ref
  text : object.properties.find? toStringKey = none
  symbol : ∀ id, object.properties.find? (.symbol id) = none

def usualText : Units := Units.ofString "[object Object]"

section

variable (methods : Array Method) (realm : Array Object) (top ref : Ref) (object : Object) (machine : Machine)
  (untouched : Untouched methods realm) (furnished : Furnished realm machine.heap top)
  (there : machine.heap[ref]? = some object) (usual : Usual object)

include untouched furnished there usual

theorem lookup_usual (key : Key) (own : object.properties.find? key = none) :
    ∃ properties, ObjectTable methods realm properties ∧ lookup machine.heap key longestChain ref =
      match properties.find? key with
      | some property => .property property Intrinsic.objectPrototype.ref
      | none => .missing := by
  obtain ⟨extensible, properties, there', table⟩ := untouched.object
  rw [← furnished.kept _ (lt_of_there realm _ _ there')] at there'
  refine ⟨properties, table, ?_⟩
  rw [longestChain, lookup_of_there machine.heap key 99999 ref object there (.inl usual.kind),
    own_ordinary machine.heap object key usual.kind, own, usual.parent]
  change lookup machine.heap key (99998 + 1) Intrinsic.objectPrototype.ref = _
  have above := lookup_of_there machine.heap key 99998 _ _ there' (.inl rfl)
  rw [own_ordinary machine.heap _ key rfl] at above
  exact above

theorem get_usual_symbol [Engine] (symbol : WellKnown)
    (among : symbol.key ∈ [joinKey, lengthKey, WellKnown.toPrimitive.key, WellKnown.toStringTag.key]) :
    (Value.object ref).get symbol.key machine = .done (.value .undefined machine) := by
  obtain ⟨properties, table, found⟩ := lookup_usual methods realm top ref object machine untouched furnished there usual
    symbol.key (usual.symbol symbol.id)
  rw [table.without _ among] at found
  exact get_of_missing ref machine symbol.key found

theorem get_usual_text [Engine] : ∃ function, (Value.object ref).get toStringKey machine = .done (.value function machine) ∧
    IsNative methods machine.heap Library.objectTextMethod function := by
  obtain ⟨properties, table, found⟩ := lookup_usual methods realm top ref object machine untouched furnished there usual
    toStringKey usual.text
  obtain ⟨function, ⟨property, named, content⟩, native⟩ := table.text
  rw [named] at found
  exact ⟨function, get_of_found ref machine toStringKey property _ function found content,
    native.kept methods realm machine.heap top _ function furnished⟩

theorem objectText_usual [Engine] :
    Library.objectText (.object ref) machine = .done (.value usualText machine) := by
  refine (bind_value (Value.toObject (.object ref)) _ machine machine ref rfl).trans ?_
  refine (bind_value (Value.object ref).isArray _ machine machine false
    (isArray_of_ordinary ref machine object there usual.kind)).trans ?_
  refine (bind_value (kindOf ref) _ machine machine object.kind (kindOf_of_there ref object machine there)).trans ?_
  refine (bind_value ((Value.object ref).get WellKnown.toStringTag.key) _ machine machine .undefined
    (get_usual_symbol methods realm top ref object machine untouched furnished there usual .toStringTag
      (by decide +kernel))).trans ?_
  have whole : Units.ofString "[object " ++ Units.ofString "Object" ++ Units.ofString "]" = usualText := by decide +kernel
  rw [usual.kind]
  exact congrArg (fun text => Dialogue.done (Outcome.value text machine)) whole

theorem toUnits_usual (depth : Nat) : @Value.toUnits (engine methods (depth + 1)) (.object ref) machine =
    .done (.value usualText machine) := by
  obtain ⟨function, found, native⟩ :=
    @get_usual_text methods realm top ref object machine untouched furnished there usual (engine methods (depth + 1))
  have called : @call (engine methods (depth + 1)) function (.object ref) #[] machine =
      .done (.value (.text usualText) machine) := by
    have ends := ends_call methods depth Library.objectTextMethod function (.object ref) #[] machine native
      (fun result after => result = .text usualText ∧ after = machine) (fun _ => False) fun callee data =>
        .of_eq _ _ _ (.text usualText) machine (bind_value (@Library.objectText (engine methods depth) (.object ref)) _
          machine machine usualText (@objectText_usual methods realm top ref object machine untouched furnished there usual
            (engine methods depth))) ⟨rfl, rfl⟩
    generalize @call (engine methods (depth + 1)) function (.object ref) #[] machine = dialogue at ends ⊢
    cases ends with
    | value result after holds =>
      obtain ⟨before, ⟨rfl, rfl⟩, rfl⟩ := holds
      rfl
    | thrown reason after fails => exact fails.elim
    | stopped reason after fails => exact fails.elim
  have primitive : @primitiveUnder (engine methods (depth + 1)) (.object ref) toStringKey machine =
      .done (.value (some (.text usualText)) machine) := by
    refine (bind_value (@Value.get (engine methods (depth + 1)) (.object ref) toStringKey) _ machine machine function
      found).trans ?_
    refine (bind_value (isCallable function) _ machine machine true
      (isCallable_native methods Library.objectTextMethod function machine native)).trans ?_
    exact bind_value (@call (engine methods (depth + 1)) function (.object ref) #[]) _ machine machine _ called
  have own : @Value.getMethod (engine methods (depth + 1)) (.object ref) WellKnown.toPrimitive.key machine =
      .done (.value none machine) :=
    bind_value (@Value.get (engine methods (depth + 1)) (.object ref) WellKnown.toPrimitive.key) _ machine machine
      .undefined (@get_usual_symbol methods realm top ref object machine untouched furnished there usual
        (engine methods (depth + 1)) .toPrimitive (by decide +kernel))
  have converted : @Value.toPrimitive (engine methods (depth + 1)) (.object ref) .text machine =
      .done (.value (.text usualText) machine) :=
    (bind_value (@Value.getMethod (engine methods (depth + 1)) (.object ref) WellKnown.toPrimitive.key) _ machine machine
      none own).trans (bind_value (@primitiveUnder (engine methods (depth + 1)) (.object ref) toStringKey) _ machine machine
        _ primitive)
  exact bind_value (@Value.toPrimitive (engine methods (depth + 1)) (.object ref) .text) _ machine machine _ converted

end

end Script

end ScriptSandbox
