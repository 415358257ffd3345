import ScriptSandbox.CommandLine.Program
import ScriptSandbox.Proofs.Reporting
import ScriptSandbox.Proofs.Timeout

/-!
Malformed source texts. None of them runs, and each is reported as an exception. A text that cannot even be handed to the
engine is always reported as a mistake of syntax. Any other one is judged like a thrown value, by the name that its error
inherits, so an earlier script that has changed this name decides about the report.
-/

namespace ScriptSandbox

open Script Script.Execution

namespace Script

theorem quietly_of_gentle (part : Execution α) (good : α → Prop) (machine : Machine)
    (gentle : Gentle machine good (part machine)) :
    ∃ found after, quietly part machine = .done (.value found after) ∧ Extends machine after := by
  unfold quietly
  rw [bind_eq, attempt]
  generalize part machine = dialogue at gentle
  cases gentle with
  | value result after extends_ holds => exact ⟨some result, after, rfl, extends_⟩
  | thrown reason after extends_ =>
    exact ⟨none, _, rfl, extends_.grows, extends_.kept, extends_.globals, extends_.cells⟩

theorem quietly_of_value (part : Execution α) (machine after : Machine) (result : α)
    (ended : part machine = .done (.value result after)) :
    quietly part machine = .done (.value (some result) after) := by
  unfold quietly
  rw [bind_eq, attempt, ended]
  rfl

end Script

namespace ScriptException

theorem textProperty_text (methods : Array Method) (depth : Nat) (ref : Ref) (key : Key) (text : Units) (machine : Machine)
    (found : @Value.get (engine methods depth) (.object ref) key machine = .done (.value (.text text) machine)) :
    @textProperty (surface methods depth) ref key machine = .done (.value (some text.toText) machine) := by
  let _ := surface methods depth
  have looked : quietly (do
      let value ← Surface.get (.object ref) key
      if value.isNullish then return none else some <$> coercedText value : Execution (Option String)) machine =
      .done (.value (some (some text.toText)) machine) := by
    apply quietly_of_value
    rw [bind_value _ _ machine machine (.text text) found]
    rfl
  unfold textProperty
  rw [bind_value _ _ machine machine _ looked]
  rfl

def ofName (name : Units) (message : String) : ScriptException :=
  if name.toText = syntaxName then { kind := .syntaxError, message, stack := none }
  else { kind := .script, message, stack := some traceText.toText }

theorem classify_error (methods : Array Method) (depth : Nat) (machine : Machine) (cls : ErrorClass) (name message : Units)
    (ref : Ref) (there : machine.heap[ref]? = some (errorObject cls message))
    (kept : ErrorsKept methods machine.heap cls name) :
    ∃ text after, Extends machine after ∧
      @classify (surface methods depth) (.object ref) machine = .done (.value (ofName name text) after) := by
  let _ := engine methods depth
  let _ := surface methods depth
  have written : Gentle machine (fun _ => True) (Marshal.scriptText (.object ref) machine) := by
    change Gentle _ _ ((Value.toUnits (.object ref) >>= fun units => pure units.toText : Execution String) machine)
    refine gentle_bind _ _ _ _ machine (gentle_toUnits methods machine cls name message ref there kept depth) ?_
    intro units after extends_ _
    exact .value _ after extends_ trivial
  obtain ⟨found, after, looked, extends_⟩ := quietly_of_gentle _ _ machine written
  have there' := Extends.there machine after ref _ extends_ there
  have kept' := ErrorsKept.mono methods machine after cls name kept extends_
  have named := textProperty_text methods depth ref nameKey name after
    (get_error_name methods after cls name message ref there' kept')
  have traced := textProperty_text methods depth ref stackKey traceText after
    (get_error_own after cls message ref there' stackKey _ (by rw [find?_errorObject, if_pos rfl]))
  refine ⟨found.getD unprintable, after, extends_, ?_⟩
  unfold classify
  rw [bind_value _ _ machine after found looked]
  dsimp only
  rw [bind_value _ _ after after _ named]
  unfold ofName
  by_cases same : name.toText = syntaxName
  · have kind : kindOf (some name.toText) (found.getD unprintable) = .syntaxError := by
      simp only [kindOf, beq_iff_eq, same, if_true]
    rw [kind, if_pos same]
    rfl
  · have kind : kindOf (some name.toText) (found.getD unprintable) = .script := by
      simp only [kindOf, beq_iff_eq, same, if_false]
    rw [kind, if_neg same]
    dsimp only
    rw [bind_value _ _ after after _ traced]
    rfl

end ScriptException

/-! ### Reports -/

structure EvalOutcome.ReportsSyntax (outcome : EvalOutcome) : Prop where
  excepted : ∃ message, outcome = .excepted { kind := .syntaxError, message, stack := none }
  failure : ∃ message, outcome.toResult = .error (.syntaxError message)
  code : outcome.exitCode = 2

theorem EvalOutcome.reportsSyntax_excepted (message : String) :
    (EvalOutcome.excepted { kind := .syntaxError, message, stack := none }).ReportsSyntax :=
  ⟨⟨message, rfl⟩, ⟨message, rfl⟩, rfl⟩

theorem EvalOutcome.reportsSyntax_ofName (name : Units) (message : String) :
    (EvalOutcome.excepted (.ofName name message)).ReportsSyntax ↔ name.toText = ScriptException.syntaxName := by
  unfold ScriptException.ofName
  by_cases same : name.toText = ScriptException.syntaxName
  · rw [if_pos same]
    exact iff_of_true (reportsSyntax_excepted message) same
  · rw [if_neg same]
    refine iff_of_false (fun reports => ?_) same
    have code : 1 = 2 := reports.code
    omega

namespace Session

/-- No script has run between two sessions: nothing was printed or requested, and no object and no variable is another
one. -/
structure Unrun (before after : Session) : Prop where
  console : after.host.console = before.host.console.reset
  requests : after.host.requests = before.host.requests
  answers : after.host.answers = before.host.answers
  machine : Extends before.machine after.machine

section

variable (methods : Array Method) (depth : Nat) (session : Session) (clock : Clock) (code : String)

theorem eval_nul [Runtime] (nul : code.contains '\x00' = true) :
    (session.eval clock code).1 = .excepted nulException ∧ session.Unrun (session.eval clock code).2 := by
  have refused : (session.begun clock).evaluated clock code = (.refused nulException, (session.begun clock).unbound) := by
    simp only [evaluated, nul, if_true]
  have ended : session.eval clock code = (.excepted nulException,
      { (session.begun clock).unbound with host := { (session.begun clock).unbound.host with governed := false } }) := by
    unfold eval
    rw [refused]
    rfl
  rw [ended]
  exact ⟨rfl, rfl, rfl, rfl, Extends.refl _⟩

def refusedWith (cls : ErrorClass) (message : Units) : Session :=
  { (session.begun clock).unbound with
    machine := { session.machine.withError cls message with depth := 0, waiting := [] } }

theorem evaluated_refused (clean : code.contains '\x00' = false) (cls : ErrorClass) (message : Units)
    (refused : refusal (Units.ofString code) = some (cls, message)) :
    @evaluated (interpreter methods depth) (session.begun clock) clock code =
      (.thrown (.object session.machine.heap.size), session.refusedWith clock cls message) := by
  let _ := interpreter methods depth
  have ran : (session.begun clock).run clock (Runtime.evaluate (Units.ofString code)) =
      (.thrown (.object session.machine.heap.size), { session.begun clock with
        machine := { session.machine.withError cls message with depth := 0, waiting := [] } }) := by
    unfold run
    rw [evaluate_refused methods depth (Units.ofString code) cls message refused (session.begun clock).machine]
    rfl
  simp only [evaluated, clean, Bool.false_eq_true, if_false, ran]
  rfl

theorem eval_refused (clean : code.contains '\x00' = false) (cls : ErrorClass) (message : Units)
    (refused : refusal (Units.ofString code) = some (cls, message)) :
    @eval (interpreter methods depth) session clock code =
      (.excepted (@explain (interpreter methods depth) (session.refusedWith clock cls message) clock
          (.object session.machine.heap.size)).1,
        let after := (@explain (interpreter methods depth) (session.refusedWith clock cls message) clock
          (.object session.machine.heap.size)).2
        { after with host := { after.host with governed := false } }) := by
  unfold eval
  rw [evaluated_refused methods depth session clock code clean cls message refused]
  rfl

theorem eval_refused_kept (clean : code.contains '\x00' = false) (cls : ErrorClass) (name message : Units)
    (refused : refusal (Units.ofString code) = some (cls, message))
    (kept : ErrorsKept methods session.machine.heap cls name) :
    (∃ text, (@eval (interpreter methods depth) session clock code).1 = .excepted (.ofName name text)) ∧
    session.Unrun (@eval (interpreter methods depth) session clock code).2 := by
  let _ := interpreter methods depth
  let looking := session.refusedWith clock cls message
  have grown : Extends session.machine looking.machine := by
    obtain ⟨grows, heap, globals, cells⟩ := extends_withError session.machine cls message
    exact ⟨grows, heap, globals, cells⟩
  have there : looking.machine.heap[session.machine.heap.size]? = some (errorObject cls message) :=
    Array.getElem?_push_size
  obtain ⟨text, after, extends_, classified⟩ := ScriptException.classify_error methods depth looking.machine cls name message
    session.machine.heap.size there (ErrorsKept.mono methods session.machine looking.machine cls name kept grown)
  have ran : looking.run clock (ScriptException.classify (.object session.machine.heap.size)) =
      (.value (.ofName name text), { looking with machine := after }) := by
    unfold run
    rw [classified]
    rfl
  have explained : looking.explain clock (.object session.machine.heap.size) =
      (.ofName name text, { looking with machine := after }) := by
    unfold explain
    rw [ran]
  rw [eval_refused methods depth session clock code clean cls message refused, explained]
  exact ⟨⟨text, rfl⟩, rfl, rfl, rfl, Extends.trans _ _ _ grown extends_⟩

/-- What comes of malformed source texts. A text with a character of code zero is always reported as a mistake of syntax.
Any other text that the interpreter refuses comes to an exception before it has asked the host or changed anything of the
machine, whatever ran before. As long as scripts have left the prototypes of errors their conversions, the exception is
reported as a mistake of syntax exactly if it inherits the name of such a mistake, and looking at it runs nothing. -/
theorem malformed_iff :
    (code.contains '\x00' = true → (@eval (interpreter methods depth) session clock code).1.ReportsSyntax ∧
      session.Unrun (@eval (interpreter methods depth) session clock code).2) ∧
    ∀ cls message, code.contains '\x00' = false → refusal (Units.ofString code) = some (cls, message) →
      session.Unrun (@evaluated (interpreter methods depth) (session.begun clock) clock code).2 ∧
      (∃ exception, (@eval (interpreter methods depth) session clock code).1 = .excepted exception) ∧
      ∀ name, ErrorsKept methods session.machine.heap cls name →
        session.Unrun (@eval (interpreter methods depth) session clock code).2 ∧
        ((@eval (interpreter methods depth) session clock code).1.ReportsSyntax ↔ name.toText = "SyntaxError") := by
  constructor
  · intro nul
    obtain ⟨outcome, unrun⟩ := @eval_nul session clock code (interpreter methods depth) nul
    rw [outcome]
    exact ⟨EvalOutcome.reportsSyntax_excepted _, unrun⟩
  · intro cls message clean refused
    refine ⟨?_, ?_, fun name kept => ?_⟩
    · rw [evaluated_refused methods depth session clock code clean cls message refused]
      obtain ⟨grows, heap, globals, cells⟩ := extends_withError session.machine cls message
      exact ⟨rfl, rfl, rfl, grows, heap, globals, cells⟩
    · rw [eval_refused methods depth session clock code clean cls message refused]
      exact ⟨_, rfl⟩
    · obtain ⟨⟨text, outcome⟩, unrun⟩ :=
        eval_refused_kept methods depth session clock code clean cls name message refused kept
      rw [outcome]
      exact ⟨unrun, EvalOutcome.reportsSyntax_ofName name text⟩

end

/-! ### Errors by another name -/

def errorRoot (function : Ref) : Object :=
  { Object.create .ordinary (some Intrinsic.objectPrototype.ref) with
    properties := Properties.empty.insert toStringKey (.hidden (.object function)) }

def errorBranch (name : Units) : Object :=
  { Object.create .ordinary (some Intrinsic.errorPrototype.ref) with
    properties := Properties.empty.insert nameKey (.hidden (.text name)) }

theorem errorsKept_of_prototypes (methods : Array Method) (heap : Array Object) (cls : ErrorClass) (name : Units) (function : Ref)
    (own : heap[cls.prototype.ref]? = some (errorBranch name))
    (shared : heap[Intrinsic.errorPrototype.ref]? = some (errorRoot function))
    (native : IsNative methods heap errorTextMethod (.object function))
    (all : ∃ object, heap[Intrinsic.objectPrototype.ref]? = some object ∧ object.kind = .ordinary ∧ object.parent = none ∧
      object.properties.find? WellKnown.toPrimitive.key = none) : ErrorsKept methods heap cls name := by
  have named (key : Key) : (errorBranch name).properties.find? key = _ := Properties.find?_single nameKey key _
  have written (key : Key) : (errorRoot function).properties.find? key = _ := Properties.find?_single toStringKey key _
  refine ⟨⟨_, own, rfl, rfl, ?_, ?_, _, (named nameKey).trans (if_pos rfl), rfl⟩,
    ⟨_, shared, rfl, rfl, ?_, _, ⟨_, (written toStringKey).trans (if_pos rfl), rfl⟩, native⟩, all⟩
  · exact (named _).trans (if_neg (by decide +kernel))
  · exact (named _).trans (if_neg (by decide +kernel))
  · exact (written _).trans (if_neg (by decide +kernel))

/-- The objects of a realm in which errors of a class have a name and can be written: two such prototypes and the
function, besides other objects. -/
def errorRealm (cls : ErrorClass) (name : Units) (function : Ref) (method : Nat) (others : Ref → Object) (ref : Ref) : Object :=
  if ref = Intrinsic.errorPrototype.ref then errorRoot function
  else if ref = cls.prototype.ref then errorBranch name
  else if ref = function then Object.create (.native method false #[]) none
  else others ref

def namedObject (name : Units) : Ref → Object :=
  errorRealm .syntaxError name Intrinsic.count 0 fun _ => Object.create .ordinary none

def namedHeap (name : Units) : Array Object := (Array.range (Intrinsic.count + 1)).map (namedObject name)

theorem namedHeap_get (name : Units) (ref : Ref) (less : ref < Intrinsic.count + 1) :
    (namedHeap name)[ref]? = some (namedObject name ref) :=
  Marshal.range_get _ (namedObject name) ref less

theorem errorsKept_named (name : Units) : ErrorsKept #[errorTextMethod] (namedHeap name) .syntaxError name := by
  refine errorsKept_of_prototypes _ (namedHeap name) .syntaxError name Intrinsic.count (namedHeap_get name _ (by decide))
    (namedHeap_get name _ (by decide)) ⟨_, _, 0, false, #[], rfl, namedHeap_get name _ (by decide), rfl, rfl⟩ ?_
  exact ⟨_, namedHeap_get name _ (by decide), rfl, rfl, rfl⟩

def named (name : String) : Session :=
  { brief 0 with machine := { (default : Machine) with heap := namedHeap (Units.ofString name) } }

theorem refusal_brace : refusal (Units.ofString "\x7b") = some (.syntaxError, Units.ofString "unexpected end of script") := by
  decide +kernel

theorem clean_brace : "\x7b".contains '\x00' = false := by simp

/-- By its own name, a brace without an end is a mistake of syntax, and nothing runs. -/
theorem malformed_brace :
    ErrorsKept #[errorTextMethod] (named "SyntaxError").machine.heap .syntaxError (Units.ofString "SyntaxError") ∧
    (@eval (interpreter #[errorTextMethod] 1) (named "SyntaxError") slowPolls "\x7b").1.ReportsSyntax ∧
    (named "SyntaxError").Unrun (@eval (interpreter #[errorTextMethod] 1) (named "SyntaxError") slowPolls "\x7b").2 ∧
    (@eval (interpreter #[errorTextMethod] 1) (named "X") slowPolls "\x00").1.ReportsSyntax := by
  have kept := errorsKept_named (Units.ofString "SyntaxError")
  obtain ⟨unrun, reports⟩ := ((malformed_iff #[errorTextMethod] 1 (named "SyntaxError") slowPolls "\x7b").2 _ _ clean_brace
    refusal_brace).2.2 _ kept
  have nul := (malformed_iff #[errorTextMethod] 1 (named "X") slowPolls "\x00").1 (by simp)
  exact ⟨kept, reports.2 (by decide +kernel), unrun, nul.1⟩

/-- By another name, the same text is a mistake of a script. -/
theorem misnamed_brace :
    "\x7b".contains '\x00' = false ∧ (∃ complaint, refusal (Units.ofString "\x7b") = some complaint) ∧
    ¬ (@eval (interpreter #[errorTextMethod] 1) (named "X") slowPolls "\x7b").1.ReportsSyntax := by
  refine ⟨clean_brace, ⟨_, refusal_brace⟩, ?_⟩
  obtain ⟨⟨text, outcome⟩, -⟩ := eval_refused_kept #[errorTextMethod] 1 (named "X") slowPolls "\x7b" clean_brace .syntaxError
    (Units.ofString "X") _ refusal_brace (errorsKept_named (Units.ofString "X"))
  rw [outcome, EvalOutcome.reportsSyntax_ofName]
  decide +kernel

end Session

end ScriptSandbox
