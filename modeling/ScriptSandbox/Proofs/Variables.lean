import ScriptSandbox.Proofs.GlobalObject
import ScriptSandbox.Proofs.Malformed
import ScriptSandbox.Proofs.NameRunning

/-!
Variables that the host defines. The definition is an assignment to the global object, and the next script that is just
the name of the variable reads the value there, unless an earlier script has declared the name for itself: then the
definition is made all the same, and nobody sees it.
-/

namespace ScriptSandbox

open Script Script.Execution Marshal

namespace Script

/-- The prototypes do not rely on the global object. -/
theorem Untouched.of_changes (methods : Array Method) (before after : Array Object) (old changed : Object)
    (untouched : Untouched methods before) (there : before[Intrinsic.global.ref]? = some old) (kind : old.kind = .global)
    (changes : Changes before after Intrinsic.global.ref changed) : Untouched methods after := by
  refine untouched.of_kept methods methods before after (fun _ _ found => found) fun ref object there' relied => ?_
  refine (changes.others ref ?_).trans there'
  rintro rfl
  rw [there] at there'
  cases there'
  obtain same | same | ⟨id, constructs, data, native⟩ := relied
  · exact absurd same (by decide)
  · exact absurd same (by decide)
  · rw [kind] at native
    cases native

/-! ### Reading -/

section

variable [Engine] (machine : Machine) (name : String)

theorem readGlobal_of_put (before : Machine) (object changed : Object) (value : Value)
    (put : Put before machine (.ofString name) object value changed) (free : machine.globals[name]? = none) :
    readGlobal name (.ofString name) true machine = .done (.value value machine) := by
  obtain ⟨property, found, content⟩ := put.holds
  have looked : lookup machine.heap (.ofString name) longestChain Intrinsic.global.ref =
      .property property Intrinsic.global.ref := by
    rw [longestChain, lookup_global machine.heap _ changed put.global 99999, found]
  refine (bind_value get _ machine machine machine rfl).trans ?_
  rw [free]
  dsimp only
  rw [looked]
  dsimp only
  rw [readProperty, content]
  rfl

theorem readGlobal_of_declared (found : GlobalName) (content : Value) (declared : machine.globals[name]? = some found)
    (held : machine.cells[found.cell]? = some content) (begun : content ≠ .absent) :
    readGlobal name (.ofString name) true machine = .done (.value content machine) := by
  refine (bind_value get _ machine machine machine rfl).trans ?_
  rw [declared]
  dsimp only
  rw [Array.getD_eq_getD_getElem?, held, Option.getD_some]
  cases content with
  | absent => exact absurd rfl begun
  | _ => rfl

end

end Script

/-! ### Defining -/

section

variable (methods : Array Method) (depth : Nat) (machine : Machine) (name : String) (value : HostValue) (object : Object)
  (untouched : Untouched methods machine.heap) (global : PlainGlobal machine.heap (.ofString name) object)
  (room : Room machine value)

include untouched global room

theorem define_converts : ∃ result made, Made machine.heap none machine made value.memory ∧
    value.Represents made.heap machine.heap.size result ∧ PlainGlobal made.heap (.ofString name) object ∧
    (interpreter methods (depth + 1)).define name value machine =
      @Ref.put (engine methods (depth + 1)) Intrinsic.global.ref (.ofString name) result made := by
  have ends := Marshal.converts methods depth machine.heap untouched value machine (furnished_self _)
  generalize converted : @Marshal.toScript (engine methods (depth + 1)) value machine = dialogue at ends
  cases ends with
  | value result made holds =>
    obtain ⟨built, -, represents⟩ := holds
    refine ⟨result, made, built, represents, ⟨?_, global.kind, global.parent, global.sound, global.plain⟩, ?_⟩
    · exact built.keeps machine.heap none machine made _ _ _ nofun global.there
    · exact bind_value (@Marshal.toScript (engine methods (depth + 1)) value) _ machine made result converted
  | thrown reason made fails => exact absurd room.memory fails
  | stopped reason made fails => exact absurd room.memory fails

variable (text : Units) (named : Key.ofString name = .name text) (other : Key.ofString name ≠ protoKey)

include named other

theorem define_takes (returns : value.Returns 128) (takes : object.Takes (.ofString name)) :
    ∃ after before changed result, (interpreter methods (depth + 1)).define name value machine = .done (.value () after) ∧
      SameVariables machine after ∧ Put before after (.ofString name) object result changed ∧
      ∀ clock host, Host.converse clock (@Marshal.fromScript (surface methods (depth + 1)) result after) host =
        (.value value.norm after, host) := by
  obtain ⟨result, made, built, represents, global', defined⟩ :=
    define_converts methods depth machine name value object untouched global room
  have untouched' := untouched.kept methods machine.heap made.heap _ built.furnished
  obtain ⟨after, changed, ended, put⟩ := @put_takes made (.ofString name) object global' (engine methods (depth + 1)) methods
    untouched' text named other result takes
  refine ⟨after, made, changed, result, defined.trans ended, built.fixed.trans _ _ _ put.fixed, put, fun clock host => ?_⟩
  -- The realm with the new property, which the objects of the value come after.
  let realm := machine.heap.modify Intrinsic.global.ref fun _ => changed
  have changes := changes_modify machine.heap Intrinsic.global.ref object (fun _ => changed) global.there
  have size : realm.size = machine.heap.size := Array.size_modify
  have below : Intrinsic.global.ref < machine.heap.size := lt_of_there machine.heap _ _ global.there
  have furnished : Furnished realm after.heap after.heap.size := by
    obtain ⟨⟨least, greatest⟩, kept, data⟩ := built.furnished
    refine ⟨⟨?_, Nat.le_refl _⟩, fun ref less => ?_, fun ref low high => ?_⟩
    · rw [size, put.heap.size]
      exact least
    · rw [size] at less
      by_cases same : ref = Intrinsic.global.ref
      · rw [same, put.heap.here, changes.here]
      · rw [put.heap.others ref same, changes.others ref same]
        exact kept ref less
    · rw [size] at low ⊢
      rw [put.heap.size] at high ⊢
      rw [put.heap.others ref (Nat.ne_of_gt (Nat.lt_of_lt_of_le below low))]
      exact data ref low high
  have represents' : value.Represents after.heap machine.heap.size result := by
    refine represents.mono made.heap after.heap _ _ value result (Nat.le_refl _) fun ref object low there => ?_
    rw [put.heap.others ref (Nat.ne_of_gt (Nat.lt_of_lt_of_le below low))]
    exact there
  have unfolds := Marshal.unfolds_of_represents methods depth clock realm ⟨after, host⟩ furnished
    (untouched.of_changes methods machine.heap realm object changed global.there global.kind changes)
    128 value returns [] machine.heap.size result represents' (Nat.le_of_eq size) nofun (Nat.le_refl _) room.length
  exact @Marshal.converse_fromScript (surface methods (depth + 1)) clock result ⟨after, host⟩ ⟨after, host⟩ _ unfolds

theorem define_refused (refuses : ¬ object.Takes (.ofString name)) : ∃ after ref message,
    (interpreter methods (depth + 1)).define name value machine = .done (.thrown (.object ref) after) ∧
      Extends machine after ∧ after.heap[ref]? = some (errorObject .typeError message) := by
  obtain ⟨result, made, built, -, global', defined⟩ :=
    define_converts methods depth machine name value object untouched global room
  have untouched' := untouched.kept methods machine.heap made.heap _ built.furnished
  obtain ⟨message, failed⟩ := @put_refused made (.ofString name) object global' (engine methods (depth + 1)) methods untouched'
    text named other result refuses
  refine ⟨_, _, message, defined.trans failed, ?_, Array.getElem?_push_size⟩
  have first : Extends machine made :=
    ⟨built.grows, fun ref less => built.kept ref less nofun, built.fixed.1, built.fixed.2⟩
  exact Extends.trans _ _ _ first (extends_withError made .typeError message)

end

namespace Session

/-- What a definition of a variable relies on: the prototypes of objects, arrays and errors are as a realm makes them, and
so is the global object but for its properties. The name of a type error may be any text. -/
structure Plain (methods : Array Method) (session : Session) (name : String) (object : Object) (reported : Units) : Prop where
  untouched : Untouched methods session.machine.heap
  global : PlainGlobal session.machine.heap (.ofString name) object
  errors : ErrorsKept methods session.machine.heap .typeError reported

section

variable (methods : Array Method) (depth : Nat) (session : Session) (clock : Clock) (name : String)
  (isName : Grammar.IsName name)

include isName

theorem eval_name (other : name ≠ "undefined") (value : Value) (result : HostValue)
    (reads : @readGlobal (engine methods depth) name (.ofString name) true session.machine =
      .done (.value value session.machine))
    (comes : ∀ host, Host.converse clock (@Marshal.fromScript (surface methods depth) value session.machine) host =
      (.value result session.machine, host)) :
    ∃ found, (@eval (interpreter methods depth) session clock name).1 = .completed found ∧ found.value = result := by
  let _ := interpreter methods depth
  have ran : (session.begun clock).run clock (Runtime.evaluate (Units.ofString name)) =
      (.value value, session.begun clock) := by
    unfold run
    rw [evaluate_name methods depth name isName other value (session.begun clock).machine reads]
    rfl
  have back : (session.begun clock).unbound.run clock (Marshal.fromScript value) =
      (.value result, (session.begun clock).unbound) := by
    unfold run
    rw [show Host.converse clock (Marshal.fromScript value (session.begun clock).unbound.machine)
      (session.begun clock).unbound.host = (.value result session.machine, (session.begun clock).unbound.host)
      from comes _]
    rfl
  have found : (session.begun clock).evaluated clock name = (.value result, (session.begun clock).unbound) := by
    simp only [evaluated, clean_of_name name isName, Bool.false_eq_true, if_false, ran, converted, back]
  let console := (session.begun clock).unbound.host.console
  refine ⟨{ value := result, consoleOutput := console.text, consoleTruncated := console.truncated }, ?_, rfl⟩
  rw [eval_outcome, found]
  rfl

variable (value : HostValue) (object : Object) (reported : Units) (plain : session.Plain methods name object reported)
  (named : name ≠ "__proto__") (room : Room session.machine value)

include plain named room

theorem setVariable_takes (returns : value.Returns 128) (takes : object.Takes (.ofString name)) :
    ∃ after before changed result,
      @setVariable (interpreter methods (depth + 1)) session clock name value = (.ok (), { session with machine := after }) ∧
      SameVariables session.machine after ∧ Put before after (.ofString name) object result changed ∧
      ∀ clock host, Host.converse clock (@Marshal.fromScript (surface methods (depth + 1)) result after) host =
        (.value value.norm after, host) := by
  let _ := interpreter methods (depth + 1)
  have apart : Key.ofString name ≠ protoKey := fun same => named ((Key.ofString_inj name "__proto__").1 same)
  obtain ⟨after, before, changed, result, defined, fixed, put, comes⟩ := define_takes methods depth session.machine name value
    object plain.untouched plain.global room _ (key_of_name name isName) apart returns takes
  have ran : session.run clock (Runtime.define name value) = (.value (), { session with machine := after }) := by
    unfold run
    rw [defined]
    rfl
  refine ⟨after, before, changed, result, ?_, fixed, put, comes⟩
  simp only [setVariable, isEmpty_of_name name isName, Bool.false_eq_true, if_false, ran]

theorem setVariable_refused (refuses : ¬ object.Takes (.ofString name)) : ∃ message after,
    @setVariable (interpreter methods (depth + 1)) session clock name value =
      (.error (.marshal message), { session with machine := after }) ∧ Extends session.machine after := by
  let _ := interpreter methods (depth + 1)
  have apart : Key.ofString name ≠ protoKey := fun same => named ((Key.ofString_inj name "__proto__").1 same)
  obtain ⟨made, ref, message, defined, extends_, there⟩ := define_refused methods depth session.machine name value object
    plain.untouched plain.global room _ (key_of_name name isName) apart refuses
  let looking : Session := { session with machine := { made with depth := 0, waiting := [] } }
  have grown : Extends session.machine looking.machine := by
    obtain ⟨grows, heap, globals, cells⟩ := extends_
    exact ⟨grows, heap, globals, cells⟩
  obtain ⟨text, after, further, classified⟩ := ScriptException.classify_error methods (depth + 1) looking.machine .typeError
    reported message ref there (ErrorsKept.mono methods session.machine looking.machine .typeError reported plain.errors grown)
  have ran : session.run clock (Runtime.define name value) = (.thrown (.object ref), looking) := by
    unfold run
    rw [defined]
    rfl
  have explained : looking.explain clock (.object ref) = (.ofName reported text, { looking with machine := after }) := by
    unfold explain run
    rw [classified]
    rfl
  refine ⟨(ScriptException.ofName reported text).message, after, ?_, Extends.trans _ _ _ grown further⟩
  simp only [setVariable, isEmpty_of_name name isName, Bool.false_eq_true, if_false, ran, explained]
  rfl

/-- What a definition of a variable comes to, in any session whose prototypes and global object are plain under its name.
It succeeds exactly if the global object takes the value. Then a script that is the name comes to what the value comes back
as from any realm with room for it, unless an earlier script has declared the name: in this case the script still reads
what is declared. If it fails, then every variable and every object is as it was. -/
theorem setVariable_iff (returns : value.Returns 128) :
    let defined := @setVariable (interpreter methods (depth + 1)) session clock name value
    (defined.1 = .ok () ↔ object.Takes (.ofString name)) ∧
    (defined.1 = .ok () → name ≠ "undefined" →
      (session.machine.globals[name]? = none → ∀ later, ∃ found,
        (@eval (interpreter methods (depth + 1)) defined.2 later name).1 = .completed found ∧ found.value = value.norm ∧
        ∀ world : World, Untouched methods world.machine.heap → Room world.machine value →
          (perform later (@Marshal.back (engine methods (depth + 1)) value) world).1 = .value found.value) ∧
      ∀ declared content, session.machine.globals[name]? = some declared →
        session.machine.cells[declared.cell]? = some content → content ≠ .absent →
        (interpreter methods (depth + 1)).evaluate (Units.ofString name) defined.2.machine =
          .done (.value content defined.2.machine)) ∧
    (defined.1 ≠ .ok () → (∃ message, defined.1 = .error (.marshal message)) ∧ Extends session.machine defined.2.machine) := by
  intro defined
  by_cases takes : object.Takes (.ofString name)
  · obtain ⟨after, before, changed, result, ended, ⟨globals, cells⟩, put, comes⟩ :=
      setVariable_takes methods depth session clock name isName value object reported plain named room returns takes
    have same : defined = (.ok (), { session with machine := after }) := ended
    rw [same]
    refine ⟨iff_of_true rfl takes, fun _ other => ⟨fun free later => ?_, fun declared content found held begun => ?_⟩,
      fun failed => absurd rfl failed⟩
    · have reads := @readGlobal_of_put (engine methods (depth + 1)) after name before object changed result put
        (globals ▸ free)
      obtain ⟨found, completed, value'⟩ := eval_name methods (depth + 1) { session with machine := after } later name isName
        other result value.norm reads (comes later)
      refine ⟨found, completed, value', fun world untouched room' => ?_⟩
      obtain ⟨last, performed, -⟩ := Marshal.back_of_returns methods depth later value world untouched returns room'
      rw [performed, value']
    · have reads := @readGlobal_of_declared (engine methods (depth + 1)) after name declared content (globals ▸ found)
        (cells ▸ held) begun
      exact evaluate_name methods (depth + 1) name isName other content after reads
  · obtain ⟨message, after, ended, extends_⟩ :=
      setVariable_refused methods depth session clock name isName value object reported plain named room takes
    have same : defined = (.error (.marshal message), { session with machine := after }) := ended
    rw [same]
    exact ⟨iff_of_false nofun takes, nofun, fun _ => ⟨⟨message, rfl⟩, extends_⟩⟩

end

/-! ### A small session -/

def plainMethods : Array Method := smallMethods.push errorTextMethod

def plainObject (extensible : Bool) (ref : Ref) : Object :=
  if ref = Intrinsic.global.ref then
    { kind := .global, parent := some Intrinsic.objectPrototype.ref, extensible, properties := .empty }
  else errorRealm .typeError (Units.ofString "TypeError") (Intrinsic.count + 4) 5 smallObject ref

def plainHeap (extensible : Bool) : Array Object := (Array.range (Intrinsic.count + 5)).map (plainObject extensible)

theorem plainObject_small (extensible : Bool) (ref : Ref) (less : ref < Intrinsic.count + 4) (global : ref ≠ Intrinsic.global.ref)
    (error : ref ≠ Intrinsic.errorPrototype.ref) (typeError : ref ≠ ErrorClass.typeError.prototype.ref) :
    plainObject extensible ref = smallObject ref := by
  rw [plainObject, if_neg global, errorRealm, if_neg error, if_neg typeError, if_neg (Nat.ne_of_lt less)]

theorem plainHeap_get (extensible : Bool) (ref : Ref) (less : ref < Intrinsic.count + 5) :
    (plainHeap extensible)[ref]? = some (plainObject extensible ref) :=
  range_get _ (plainObject extensible) ref less

theorem untouched_plain (extensible : Bool) : Untouched plainMethods (plainHeap extensible) := by
  refine untouched_small.of_kept smallMethods plainMethods smallHeap (plainHeap extensible) ?_ ?_
  · intro id method found
    obtain ⟨less, same⟩ := Array.getElem?_eq_some_iff.1 found
    rw [plainMethods, Array.getElem?_push_lt less, same]
  · intro ref object there relied
    have less : ref < Intrinsic.count + 4 := by
      have bound := lt_of_there smallHeap ref object there
      rwa [smallHeap, Array.size_map, Array.size_range] at bound
    rw [smallHeap_get ref less] at there
    obtain rfl := Option.some.inj there
    have apart (intrinsic : Intrinsic) (object : intrinsic.ref ≠ Intrinsic.objectPrototype.ref)
        (array : intrinsic.ref ≠ Intrinsic.arrayPrototype.ref) (kind : (smallObject intrinsic.ref).kind = .ordinary) :
        ref ≠ intrinsic.ref := by
      rintro rfl
      rcases relied with same | same | ⟨id, constructs, data, native⟩
      · exact object same
      · exact array same
      · rw [kind] at native
        cases native
    rw [plainHeap_get extensible ref (Nat.lt_succ_of_lt less)]
    exact congrArg some (plainObject_small extensible ref less (apart .global (by decide) (by decide) rfl)
      (apart .errorPrototype (by decide) (by decide) rfl) (apart .typeErrorPrototype (by decide) (by decide) rfl))

theorem errorsKept_plain (extensible : Bool) :
    ErrorsKept plainMethods (plainHeap extensible) .typeError (Units.ofString "TypeError") := by
  have all := plainHeap_get extensible Intrinsic.objectPrototype.ref (by decide)
  rw [plainObject_small extensible _ (by decide) (by decide) (by decide) (by decide)] at all
  refine errorsKept_of_prototypes _ (plainHeap extensible) .typeError _ (Intrinsic.count + 4)
    (plainHeap_get extensible _ (by decide)) (plainHeap_get extensible _ (by decide))
    ⟨_, _, 5, false, #[], rfl, plainHeap_get extensible _ (by decide), rfl, rfl⟩ ⟨_, all, rfl, rfl, ?_⟩
  refine (find?_smallObjectTable _).trans ?_
  rw [if_neg (by decide +kernel), if_neg (by decide +kernel), if_neg (by decide +kernel)]

def plainSession (extensible : Bool) (globals : Std.HashMap String GlobalName) (cells : Array Value) : Session :=
  { brief 0 with machine := { (default : Machine) with heap := plainHeap extensible, globals, cells } }

theorem plain_plainSession (extensible : Bool) (globals : Std.HashMap String GlobalName) (cells : Array Value) (name : String) :
    (plainSession extensible globals cells).Plain plainMethods name (plainObject extensible Intrinsic.global.ref)
      (Units.ofString "TypeError") := by
  refine ⟨untouched_plain extensible, ⟨plainHeap_get extensible _ (by decide), rfl, rfl, Properties.sound_empty, ?_⟩,
    errorsKept_plain extensible⟩
  exact fun property found => absurd found (Properties.not_found_empty (.ofString name) property)

theorem takes_plain (extensible : Bool) (name : String) :
    (plainObject extensible Intrinsic.global.ref).Takes (.ofString name) ↔ extensible = true := by
  have missing : (plainObject extensible Intrinsic.global.ref).properties.find? (.ofString name) = none :=
    Properties.find?_empty _
  rw [Object.Takes, missing]
  rfl

theorem room_plainSession (extensible : Bool) (globals : Std.HashMap String GlobalName) (cells : Array Value) :
    Room (plainSession extensible globals cells).machine (.integer 2) :=
  ⟨nofun, by decide⟩

theorem isName_x : Grammar.IsName "x" :=
  ⟨⟨'x', [], by decide, by decide, nofun⟩, by decide +kernel⟩

/-- A global object that can be extended takes a new variable, and the next script reads it. One that cannot be extended
refuses it. -/
theorem setVariable_x :
    (∃ found, (@eval (interpreter plainMethods 1)
      (@setVariable (interpreter plainMethods 1) (plainSession true ∅ #[]) slowPolls "x" (.integer 2)).2 slowPolls "x").1 =
        .completed found ∧ found.value = .integer 2) ∧
    (@setVariable (interpreter plainMethods 1) (plainSession false ∅ #[]) slowPolls "x" (.integer 2)).1 ≠ .ok () := by
  obtain ⟨taken, defines, -⟩ := setVariable_iff plainMethods 0 (plainSession true ∅ #[]) slowPolls "x" isName_x (.integer 2) _ _
    (plain_plainSession true ∅ #[] "x") (by decide) (room_plainSession true ∅ #[]) (.integer _ 2)
  obtain ⟨refused, -⟩ := setVariable_iff plainMethods 0 (plainSession false ∅ #[]) slowPolls "x" isName_x (.integer 2) _ _
    (plain_plainSession false ∅ #[] "x") (by decide) (room_plainSession false ∅ #[]) (.integer _ 2)
  obtain ⟨found, completed, same, -⟩ := (defines (taken.2 ((takes_plain true "x").2 rfl)) (by decide)).1 Std.HashMap.getElem?_empty slowPolls
  exact ⟨⟨found, completed, same⟩, fun ok => nomatch (takes_plain false "x").1 (refused.1 ok)⟩

def declaring : Session := plainSession true (Std.HashMap.insert ∅ "x" { cell := 0, constant := false }) #[.boolean true]

/-- A variable of this name is defined, but nobody sees it. -/
theorem setVariable_declared :
    let defined := @setVariable (interpreter plainMethods 1) declaring slowPolls "x" (.integer 2)
    defined.1 = .ok () ∧
    (∃ found, (@eval (interpreter plainMethods 1) defined.2 slowPolls "x").1 = .completed found ∧ found.value = .boolean true) ∧
    (perform slowPolls (@Marshal.back (engine plainMethods 1) (.integer 2))
      ⟨(plainSession true ∅ #[]).machine, (plainSession true ∅ #[]).host⟩).1 = .value (.integer 2) := by
  intro defined
  obtain ⟨after, before, changed, result, ended, ⟨globals, cells⟩, -⟩ := setVariable_takes plainMethods 0 declaring slowPolls "x"
    isName_x (.integer 2) _ _ (plain_plainSession true _ _ "x") (by decide) (room_plainSession true _ _) (.integer _ 2)
    ((takes_plain true "x").2 rfl)
  have same : defined = (.ok (), { declaring with machine := after }) := ended
  have found : after.globals["x"]? = some { cell := 0, constant := false } := by
    rw [globals]
    exact Std.HashMap.getElem?_insert_self
  have held : after.cells[0]? = some (.boolean true) := by
    rw [cells]
    rfl
  have reads := @readGlobal_of_declared (engine plainMethods 1) after "x" _ _ found held nofun
  rw [same]
  refine ⟨rfl, eval_name plainMethods 1 { declaring with machine := after } slowPolls "x" isName_x (by decide) _ _ reads
    fun host => rfl, ?_⟩
  obtain ⟨last, performed, -⟩ := Marshal.back_of_returns plainMethods 0 slowPolls (.integer 2)
    ⟨(plainSession true ∅ #[]).machine, (plainSession true ∅ #[]).host⟩ (untouched_plain true) (.integer _ 2)
    (room_plainSession true ∅ #[])
  rw [performed]
  rfl

end Session

end ScriptSandbox
