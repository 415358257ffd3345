import ScriptSandbox.Proofs.RoundTrip
import ScriptSandbox.Session

/-!
Source texts that an interpreter refuses. It reads and compiles a text as a whole before it runs any of it, so a text
that it refuses leaves one object behind, the error, and nothing else.
-/

namespace ScriptSandbox

open Script Script.Execution

/-- An interpreter as a session uses it, with a library of its own and so deeply nested calls of it. -/
@[reducible] def interpreter (methods : Array Method) (depth : Nat) : Runtime where
  toSurface := surface methods depth
  evaluate source := @evaluateProgram (engine methods depth) ⟨methods⟩ source true true
  define name value := do
    let converted ← @Marshal.toScript (engine methods depth) value
    @Ref.put (engine methods depth) Intrinsic.global.ref (.ofString name) converted

theorem runtime_eq : Sandbox.runtime = interpreter Sandbox.realm.methods Sandbox.depth := rfl

/-- The class and the message of the error by which a source text is refused. Texts nested too deeply get another one
than all others. -/
def refusal (source : Units) : Option (ErrorClass × Units) :=
  match Program.parse (.outside true) source.codes with
  | .error complaint =>
    if complaint == "stack overflow" then
      some (.rangeError, Units.ofString "Maximum call stack size exceeded")
    else some (.syntaxError, Units.ofString complaint)
  | .ok program =>
    match program.compile .realm [] with
    | .error complaint => some (.syntaxError, Units.ofString complaint)
    | .ok _ => none

def Script.Machine.withError (machine : Machine) (cls : ErrorClass) (message : Units) : Machine :=
  { machine with heap := machine.heap.push (errorObject cls message), charged := machine.charged + objectSize }

section

variable (source : Units) (machine : Machine)

theorem readProgram_of_ok (around : Grammar.Surroundings) (program : Program)
    (read : Program.parse around source.codes = .ok program) :
    readProgram around source machine = .done (.value program machine) := by
  unfold readProgram
  rw [read]
  rfl

theorem compileProgram_of_ok (program : Program) (ownership : Compile.Ownership) (around : List Visible)
    (compiled : Code × GlobalNames) (made : program.compile ownership around = .ok compiled) :
    compileProgram program ownership around machine = .done (.value compiled machine) := by
  unfold compileProgram
  rw [made]
  rfl

theorem compileProgram_of_error (program : Program) (ownership : Compile.Ownership) (around : List Visible)
    (complaint : String) (failed : program.compile ownership around = .error complaint) :
    compileProgram program ownership around machine =
      .done (.thrown (.object machine.heap.size) (machine.withError .syntaxError (Units.ofString complaint))) := by
  unfold compileProgram
  rw [failed]
  rfl

theorem readProgram_of_error (complaint : String) (unread : Program.parse (.outside true) source.codes = .error complaint)
    (cls : ErrorClass) (message : Units) (refused : refusal source = some (cls, message)) :
    readProgram (.outside true) source machine =
      .done (.thrown (.object machine.heap.size) (machine.withError cls message)) := by
  unfold readProgram
  rw [refusal, unread] at refused
  rw [unread]
  dsimp only at refused ⊢
  by_cases deep : (complaint == "stack overflow") = true
  · rw [if_pos deep] at refused ⊢
    cases refused
    rfl
  · rw [if_neg deep] at refused ⊢
    cases refused
    rfl

end

/-- A refused text makes an error and does nothing else. -/
theorem evaluate_refused (methods : Array Method) (depth : Nat) (source : Units) (cls : ErrorClass) (message : Units)
    (refused : refusal source = some (cls, message)) (machine : Machine) :
    (interpreter methods depth).evaluate source machine =
      .done (.thrown (.object machine.heap.size) (machine.withError cls message)) := by
  let _ := engine methods depth
  let _ : Catalog := ⟨methods⟩
  have entered : enterProgram source true true machine =
      .done (.thrown (.object machine.heap.size) (machine.withError cls message)) := by
    cases read : Program.parse (.outside true) source.codes with
    | error complaint =>
      exact bind_thrown _ _ machine _ _ (readProgram_of_error source machine complaint read cls message refused)
    | ok program =>
      refine (bind_value _ _ machine machine program (readProgram_of_ok source machine _ program read)).trans ?_
      rw [refusal, read] at refused
      dsimp only at refused
      cases compiled : program.compile .realm [] with
      | error complaint =>
        rw [compiled] at refused
        cases refused
        exact bind_thrown (compileProgram program .realm []) _ machine _ _
          (compileProgram_of_error machine program .realm [] complaint compiled)
      | ok _ =>
        rw [compiled] at refused
        cases refused
  exact bind_thrown _ _ machine _ _ entered

end ScriptSandbox
