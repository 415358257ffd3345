import ScriptSandbox.Script.Compile.Statements

/-!
The code of whole scripts. Names that a script declares outside its functions belong to the realm; text
that is evaluated inside a script has names of its own, and shares the variables around it.
-/

namespace ScriptSandbox.Script

namespace Compile

def nesting : Nat := 6000

@[reducible] def nested : Nat → Recursion
  | 0 =>
    { function := fun _ _ _ => throw "stack overflow", expression := fun _ => throw "stack overflow"
      pattern := fun _ _ => throw "stack overflow", statement := fun _ => throw "stack overflow" }
  | depth + 1 =>
    { function := fun id naming source state => @anyFunction (nested depth) id naming source state
      expression := fun found state => @anyExpression (nested depth) found state
      pattern := fun how found state => @anyPattern (nested depth) how found state
      statement := fun found state => @anyStatement (nested depth) found state }

inductive Ownership where
  /-- All to the realm. -/
  | realm
  /-- Variables and functions to the realm, other names to the script. -/
  | mixed
  /-- All to the script. -/
  | script

def programInfo (program : Program) : FunctionInfo :=
  { name := "<eval>", kind := .ordinary, generator := false, async := false, strict := program.strict
    source := #[], mentions := [], inner := program.inner, evaluates := program.evaluates, arity := 0 }

def globalFunctions [Recursion] (scope : Scope) : Build Unit := do
  for (name, id) in scope.functions do
    closureDeclared id
    emit (.defineGlobalFunction name)

def programBody (program : Program) (ownership : Ownership) : Build Unit :=
  letI := nested nesting
  do
    let completion ← newSlot
    modifyDraft fun d => { d with completion := some completion }
    match ownership with
    | .realm => globalFunctions program.scope
    | .mixed =>
      modifyDraft fun d => { d with blocks := [] :: d.blocks }
      openScope { program.scope with functions := [] } false closureDeclared
      globalFunctions program.scope
    | .script =>
      modifyDraft fun d => { d with blocks := [] :: d.blocks }
      for name in program.varNames do
        discard <| declarePlain name
      openScope program.scope true closureDeclared
    program.body.forM statement
    readSlot completion
    emit .result

end Compile

open Compile in
/-- The code of a script, which shares the variables that it can see around it, and the names that it
declares in the realm. -/
def Program.compile (program : Program) (ownership : Ownership) (around : List Visible) :
    Except String (Code × GlobalNames) := do
  let shared := around.zipIdx.map fun (seen, index) =>
    (seen.name, ({ place := .captured index, constant := seen.constant, checked := seen.checked
                   lenient := false } : Variable))
  let draft := { Draft.create (programInfo program) "<eval>" with blocks := [shared] }
  let start : State := { functions := program.functions, draft, outer := [] }
  let (_, s) ← (programBody program ownership).run start
  let functions := program.scope.functions.map (·.1)
  let names : GlobalNames := match ownership with
    | .realm =>
      { lexicals := program.scope.names, functions
        varNames := program.varNames.filter (!functions.contains ·) }
    | .mixed =>
      { lexicals := [], functions, varNames := program.varNames.filter (!functions.contains ·) }
    | .script => { lexicals := [], functions := [], varNames := [] }
  return (s.draft.code false #[], names)

end ScriptSandbox.Script
