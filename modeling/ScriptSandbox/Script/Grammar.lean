import ScriptSandbox.Script.Grammar.Patterns
import ScriptSandbox.Script.Grammar.Statements

/-!
Reading whole scripts. The parts of the grammar are tied to each other by depth: a part at one depth is
made of parts one level deeper, and what is nested too deeply is refused.
-/

namespace ScriptSandbox.Script

namespace Grammar

def nesting : Nat := 1500

def tooDeep : Parse α := fail "stack overflow"

@[reducible] def within : Nat → Recursion
  | 0 =>
    { assignment := fun _ => tooDeep, unary := tooDeep, binary := fun _ => tooDeep, member := tooDeep
      statement := tooDeep, bindingPattern := fun _ => tooDeep, asPattern := fun _ => tooDeep }
  | depth + 1 =>
    { assignment := fun cover context state =>
        @assignmentExpression (within depth) cover context state
      unary := fun context state => @unaryExpression (within depth) context state
      binary := fun least context state => @binaryExpression (within depth) least context state
      member := fun context state => @memberOnly (within depth) context state
      statement := fun context state => @anyStatement (within depth) context state
      bindingPattern := fun how context state => @anyBinding (within depth) how context state
      asPattern := fun found context state =>
        @expressionAsPattern (within depth) found context state }

def startState : State :=
  { token := .eof, start := 0, stop := 0, previous := 0, lineBefore := false, functions := #[]
    mentions := [], inner := [], evaluates := false, varNames := [], parameters := [], blocks := []
    secrets := [], pending := false }

structure Surroundings where
  strict : Bool
  superMember : Bool
  newTarget : Bool
  field : Bool
  secrets : List String

def Surroundings.outside (strict : Bool) : Surroundings :=
  { strict, superMember := false, newTarget := false, field := false, secrets := [] }

def Surroundings.context (around : Surroundings) (source : Token.Source) : Context :=
  { source, strict := around.strict, returns := false, generator := false, async := false
    superCall := false, superMember := around.superMember, newTarget := around.newTarget
    field := around.field, labels := [], breaks := false, turns := false, allowIn := true
    secrets := around.secrets }

/-- The position after a mark of byte order and a first line that names an interpreter. -/
def bodyStart (source : Token.Source) : Nat :=
  let start := if Token.codeAt source 0 == 0xFEFF then 1 else 0
  if Token.codeAt source start == 35 && Token.codeAt source (start + 1) == 33 then
    Token.skipWhile (!Token.isLineEnd ·) source source.size start
  else start

def wholeScript : Parse (List Statement × Bool) :=
  letI := within nesting
  do
    advance
    statements false true

end Grammar

open Grammar in
def Program.parse (around : Surroundings) (source : Token.Source) : Except String Program := do
  let start := { startState with stop := bodyStart source }
  let (((body, strict), scope), s) ← (inBlock wholeScript).run (around.context source) |>.run start
  if s.secrets.any (!around.secrets.contains ·) then throw "undefined private field"
  else
    return { varNames := s.varNames.reverse.eraseDups, scope, body, functions := s.functions
             strict, inner := s.inner, evaluates := s.evaluates }

end ScriptSandbox.Script
