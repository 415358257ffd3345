import ScriptSandbox.Proofs.Steps

/-!
How a thrown value is classified. Everything that is looked at may run code of the script: the text of the value,
then its name, and at last its stack, each at most once. Whatever goes wrong with one of them counts as nothing found.
The main statement says that there always is an answer, and by which rule.
-/

namespace ScriptSandbox

open Script Script.Execution

/-! ### Docile engines -/

structure Surface.Docile [Surface] : Prop where
  toUnits : ∀ value, Script.Execution.Docile (Surface.toUnits value)
  get : ∀ value key, Script.Execution.Docile (Surface.get value key)

theorem Behaviour.docile_surface (behaviour : Behaviour) : @Surface.Docile behaviour.runtime.toSurface :=
  letI := behaviour.runtime
  { toUnits := fun value => (behaviour.toUnits value).docile_run
    get := fun value key => (behaviour.get value key).docile_run }

section

variable [Surface] (docile : Surface.Docile)
include docile

theorem docile_coercedText (value : Value) : Script.Execution.Docile (coercedText value) :=
  docile_bind _ _ (docile.toUnits value) fun _ => docile_pure _

theorem Marshal.docile_scriptTextFrom (depth : Nat) (value : Value) :
    Script.Execution.Docile (scriptTextFrom depth value) := by
  induction depth generalizing value with
  | zero => exact docile_throwNew _ _
  | succ depth ih =>
    cases value with
    | symbol id =>
      refine docile_bind _ _ (docile.get _ _) fun description => ?_
      cases description with
      | undefined => exact docile_pure _
      | _ => exact docile_bind _ _ (ih _) fun _ => docile_pure _
    | _ => exact docile_coercedText docile _

end

namespace ScriptException

/-! ### Texts of properties -/

/-- How a property of a thrown object is looked at: it is read, and if it is neither `null` nor `undefined`, it is
written and decoded. Nothing is found if it is one of these, or if the way to its text does not come to an end. -/
inductive Looks (clock : Clock) [Surface] (ref : Ref) (key : Key) (before : World) :
    Option String → World → List Host.Effect → Prop
  | text (value : Value) (content : Units) (between after : World) (effects effects' : List Host.Effect)
    (read : Runs clock (Surface.get (.object ref) key) before (.value value) between effects)
    (there : value.isNullish = false)
    (written : Runs clock (Surface.toUnits value) between (.value content) after effects') :
    Looks clock ref key before (some content.toText) after (effects ++ effects')
  | absent (value : Value) (after : World) (effects : List Host.Effect)
    (read : Runs clock (Surface.get (.object ref) key) before (.value value) after effects)
    (nullish : value.isNullish = true) : Looks clock ref key before none after effects
  | threw (reason : Value) (after : World) (effects : List Host.Effect)
    (reads : Reads clock (.object ref) key before (.thrown reason) after effects) :
    Looks clock ref key before none (before.rewound after) effects
  | interrupted (after : World) (effects : List Host.Effect)
    (reads : Reads clock (.object ref) key before (.stopped .interrupted) after effects)
    (asked : (Host.interruption clock (propertyText (.object ref) key before.machine) before.host).isSome = true) :
    Looks clock ref key before none (before.rewound after) effects

section

variable [Surface] (clock : Clock)

theorem exists_looks (docile : Surface.Docile) (ref : Ref) (key : Key) (before : World) :
    ∃ found after effects, Looks clock ref key before found after effects ∧
      Runs clock (textProperty ref key) before (.value found) after effects := by
  have careful := docile_propertyText (.object ref) key (docile.get _ _) docile.toUnits
  obtain ⟨found, after, effects, tells⟩ := exists_tells clock (propertyText (.object ref) key) careful before
  have looked : Runs clock (textProperty ref key) before (.value found.join) after effects := by
    rw [textProperty_eq]
    exact runs_bind_pure clock _ _ before after found _ effects tells.quietly rfl
  refine ⟨found.join, after, effects, ?_, looked⟩
  obtain ⟨ending, after', effects', reads⟩ := exists_reads clock (.object ref) key before
  cases tells with
  | result result _ _ runs =>
    obtain ⟨same, rfl, rfl⟩ := runs.unique clock _ _ _ _ _ _ _ _ (reads.runs clock)
    cases reads with
    | unreadable fault _ _ read => exact absurd same.symm (Ending.fault_ne_value fault result)
    | absent value _ _ read nullish =>
      cases same
      exact .absent value after effects read nullish
    | present value between _ ending effects effects' read there written =>
      obtain ⟨content, rfl, rfl⟩ := Ending.map_eq_value _ ending result same.symm
      exact .text value content between after effects effects' read there written
  | threw reason after _ runs =>
    obtain ⟨rfl, rfl, rfl⟩ := runs.unique clock _ _ _ _ _ _ _ _ (reads.runs clock)
    exact .threw reason after effects reads
  | interrupted after _ runs asked =>
    obtain ⟨rfl, rfl, rfl⟩ := runs.unique clock _ _ _ _ _ _ _ _ (reads.runs clock)
    exact .interrupted after effects reads asked

end

/-! ### The rule -/

/-- A name that could be read decides alone; without one, the start of the message does. -/
def SaysSyntax (name : Option String) (message : String) : Prop :=
  name = some "SyntaxError" ∨ name = none ∧ "SyntaxError".toList <+: message.toList

theorem kindOf_eq_syntaxError_iff (name : Option String) (message : String) :
    kindOf name message = .syntaxError ↔ SaysSyntax name message := by
  have rule (named : Bool) : (if named then ExceptionKind.syntaxError else .script) = .syntaxError ↔ named = true := by
    cases named <;> decide
  cases name with
  | some name =>
    refine (rule (name == syntaxName)).trans ?_
    simp [SaysSyntax, syntaxName]
  | none =>
    refine (rule (message.startsWith syntaxName)).trans ?_
    rw [String.startsWith_string_iff]
    simp [SaysSyntax, syntaxName]

/-- How a thrown value is classified: first its text is made, or else the message is a fixed one; the name and
the stack are those of an object, and a stack is looked for only if the kind needs one. -/
inductive Classifies (clock : Clock) [Surface] (thrown : Value) (before : World) :
    ScriptException → World → List Host.Effect → Prop
  | plain (kind : ExceptionKind) (text : Option String) (after : World) (effects : List Host.Effect)
    (noObject : ∀ ref, thrown ≠ .object ref)
    (tells : Tells clock (Marshal.scriptText thrown) before text after effects)
    (rule : kind = .syntaxError ↔ SaysSyntax none (text.getD "unprintable exception")) :
    Classifies clock thrown before { kind, message := text.getD "unprintable exception", stack := none } after effects
  | syntaxError (ref : Ref) (text name : Option String) (between after : World) (effects effects' : List Host.Effect)
    (object : thrown = .object ref) (tells : Tells clock (Marshal.scriptText thrown) before text between effects)
    (named : Looks clock ref (.ofString "name") between name after effects')
    (rule : SaysSyntax name (text.getD "unprintable exception")) :
    Classifies clock thrown before
      { kind := .syntaxError, message := text.getD "unprintable exception", stack := none } after
      (effects ++ effects')
  | script (ref : Ref) (text name stack : Option String) (between middle after : World)
    (effects effects' effects'' : List Host.Effect) (object : thrown = .object ref)
    (tells : Tells clock (Marshal.scriptText thrown) before text between effects)
    (named : Looks clock ref (.ofString "name") between name middle effects')
    (rule : ¬ SaysSyntax name (text.getD "unprintable exception"))
    (traced : Looks clock ref (.ofString "stack") middle stack after effects'') :
    Classifies clock thrown before { kind := .script, message := text.getD "unprintable exception", stack } after
      (effects ++ (effects' ++ effects''))

section

variable [Surface] (clock : Clock)

theorem classify_plain (thrown : Value) (noObject : ∀ ref, thrown ≠ .object ref) :
    classify thrown = (quietly (Marshal.scriptText thrown) >>= fun text =>
      pure { kind := kindOf none (text.getD unprintable), message := text.getD unprintable, stack := none }) := by
  cases thrown with
  | object ref => exact absurd rfl (noObject ref)
  | _ => rfl

theorem exists_classifies (docile : Surface.Docile) (thrown : Value) (before : World) :
    ∃ exception after effects, Runs clock (classify thrown) before (.value exception) after effects ∧
      Classifies clock thrown before exception after effects := by
  obtain ⟨text, between, effects, tells⟩ := exists_tells clock (Marshal.scriptText thrown)
    (Marshal.docile_scriptTextFrom docile _ thrown) before
  by_cases object : ∃ ref, thrown = .object ref
  · obtain ⟨ref, rfl⟩ := object
    obtain ⟨name, middle, effects', named, readName⟩ := exists_looks clock docile ref (.ofString "name") between
    by_cases rule : SaysSyntax name (text.getD "unprintable exception")
    · have kind := (kindOf_eq_syntaxError_iff name _).2 rule
      refine ⟨_, middle, _, ?_, .syntaxError ref text name between middle effects effects' rfl tells named rule⟩
      refine runs_bind clock _ _ before between middle text _ effects effects' tells.quietly ?_
      refine runs_bind_pure clock _ _ between middle name _ effects' readName ?_
      simp only [unprintable, kind]
    · have kind : kindOf name (text.getD "unprintable exception") = .script := by
        cases found : kindOf name (text.getD "unprintable exception") with
        | syntaxError => exact absurd ((kindOf_eq_syntaxError_iff name _).1 found) rule
        | script => rfl
      obtain ⟨stack, after, effects'', traced, readStack⟩ := exists_looks clock docile ref (.ofString "stack") middle
      refine ⟨_, after, _, ?_, .script ref text name stack between middle after effects effects' effects'' rfl tells
        named rule traced⟩
      refine runs_bind clock _ _ before between after text _ effects _ tells.quietly ?_
      refine runs_then clock _ _ (textProperty ref stackKey >>= fun stack =>
        pure { kind := .script, message := text.getD unprintable, stack }) between middle after name _ effects'
        effects'' readName ?_ ?_
      · simp only [unprintable, kind]
      · exact runs_bind_pure clock _ _ middle after stack _ effects'' readStack rfl
  · have noObject (ref : Ref) (same : thrown = .object ref) : False := object ⟨ref, same⟩
    refine ⟨_, between, effects, ?_, .plain (kindOf none (text.getD unprintable)) text between effects noObject tells
      (kindOf_eq_syntaxError_iff none _)⟩
    rw [classify_plain thrown noObject]
    exact runs_bind_pure clock _ _ before between text _ effects tells.quietly rfl

theorem runs_scriptText_symbol (id : Nat) (description : Value) (text : String) (before between after : World)
    (effects effects' : List Host.Effect)
    (read : Runs clock (Surface.get (.symbol id) (.ofString "description")) before (.value description) between
      effects)
    (shows : description = .undefined ∧ text = "Symbol()" ∧ after = between ∧ effects' = [] ∨
      description ≠ .undefined ∧ ∃ inner, text = "Symbol(" ++ inner ++ ")" ∧
        Runs clock (Marshal.scriptTextFrom (Marshal.longestDescription - 1) description) between (.value inner) after
          effects') :
    Runs clock (Marshal.scriptText (.symbol id)) before (.value text) after (effects ++ effects') := by
  obtain ⟨rfl, rfl, rfl, rfl⟩ | ⟨some_, inner, rfl, written⟩ := shows
  · exact runs_bind clock _ _ before after after _ _ effects [] read (runs_pure clock _ after)
  · refine runs_then clock _ _ (Marshal.scriptTextFrom (Marshal.longestDescription - 1) description >>= fun inner =>
      pure ("Symbol(" ++ inner ++ ")")) before between after description _ effects effects' read ?_ ?_
    · cases description with
      | undefined => exact absurd rfl some_
      | _ => rfl
    · exact runs_bind_pure clock _ _ between after inner _ effects' written rfl

end

/-- An engine whose objects print before they refuse to be written and have a name that cannot be read, but a
stack that can, after it has printed. -/
def spiteful : Behaviour where
  program _ := .returns .undefined
  toUnits
    | .object _ => .prints [] (fun _ => .returns #[]) (.throws .null)
    | _ => .prints [] (fun _ => .returns #[]) (.returns "at home")
  get _ key := if key = .ofString "stack" then .returns (.integer 7) else .throws .undefined
  isArray _ := .returns false
  lengthOf _ := .returns 0
  define _ _ := .returns ()

example :
    Host.output Sandbox.stillClock (@classify spiteful.runtime.toSurface (.object 5) narrowWorld.machine)
      narrowWorld.host = [10, 10] := by
  decide +kernel

end ScriptException

end ScriptSandbox
