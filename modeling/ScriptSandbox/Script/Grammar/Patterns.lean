import ScriptSandbox.Script.Grammar.Basic

/-!
Patterns: those that declare names, and those that expressions on the left of an assignment stand for.
-/

namespace ScriptSandbox.Script.Grammar

variable [Recursion]

def bindingElement (how : Declared) : Parse Pattern := do
  let pattern ← bindingPattern how
  if ← eatMark "=" then return .defaulted pattern (← wholeValue) else return pattern

def arrayBinding (how : Declared) : Parse Pattern :=
  goOn [] fun done => do
    if ← eatMark "]" then return .inr (.array done.reverse none)
    else if ← eatMark "," then return .inl (.hole :: done)
    else if ← eatMark "..." then
      let rest ← bindingPattern how
      expectMark "]"
      return .inr (.array done.reverse (some rest))
    else
      let element ← bindingElement how
      unless ← atMark "]" do expectMark ","
      return .inl (element :: done)

def objectBinding (how : Declared) : Parse Pattern :=
  goOn [] fun done => do
    if ← eatMark "\x7d" then return .inr (.object done.reverse none)
    else if ← eatMark "..." then
      let name ← bindingName
      declare how name
      expectMark "\x7d"
      return .inr (.object done.reverse (some (.name name)))
    else
      let shorthand ← bindableName?
      let key ← memberName
      let element ← if ← eatMark ":" then bindingElement how
        else match shorthand with
          | none => fail "invalid property name"
          | some name => do
            if (← read).strict && (name == "eval" || name == "arguments") then
              fail "invalid variable name in strict mode"
            declare how name
            if ← eatMark "=" then pure (.defaulted (.name name) (← wholeValue)) else pure (.name name)
      unless ← atMark "\x7d" do expectMark ","
      return .inl (.matched key element :: done)

def anyBinding (how : Declared) : Parse Pattern := do
  if ← eatMark "[" then arrayBinding how
  else if ← eatMark "\x7b" then objectBinding how
  else
    let name ← bindingName
    declare how name
    return .name name

def badTarget : Parse α := fail "invalid assignment left-hand side"

def isPlace : Expression → Bool
  | .name _ => true
  | .member .. => true
  | .index .. => true
  | .secretMember .. => true
  | .superMember .. => true
  | _ => false

/-- Items of an array as a pattern; a spread item must be the last one. -/
def itemsAsPattern : List Expression → List Pattern → Parse Pattern
  | [], done => return .array done.reverse none
  | [.spread inner], done => do
    match inner with
    | .assign .. => badTarget
    | _ => return .array done.reverse (some (← asPattern inner))
  | .spread _ :: _, _ => badTarget
  | .hole :: rest, done => itemsAsPattern rest (.hole :: done)
  | item :: rest, done => do itemsAsPattern rest ((← asPattern item) :: done)

/-- Members of an object as a pattern; a spread member must be the last one. -/
def membersAsPattern : List Member → List Member → Parse Pattern
  | [], done => return .object done.reverse none
  | [.spread source], done => do
    if isPlace source then return .object done.reverse (some (← asPattern source)) else badTarget
  | .property key inner :: rest, done => do
    membersAsPattern rest (.matched key (← asPattern inner) :: done)
  | .parent inner :: rest, done => do
    membersAsPattern rest
      (.matched (.fixed (Units.ofString "__proto__")) (← asPattern inner) :: done)
  | .defaulted name default :: rest, done => do
    membersAsPattern rest
      (.matched (.fixed (Units.ofString name)) (.defaulted (← asPattern (.name name)) default) :: done)
  | _ :: _, _ => badTarget

def expressionAsPattern (found : Expression) : Parse Pattern := do
  match found with
  | .name name =>
    if (← read).strict && (name == "eval" || name == "arguments") then
      fail "invalid lvalue in strict mode"
    else return .name name
  | .grouped inner => if isPlace inner then asPattern inner else badTarget
  | .array items => itemsAsPattern items []
  | .object members => membersAsPattern members []
  | .assign target default => return .defaulted target default
  | other => if isPlace other then return .place other else badTarget

end ScriptSandbox.Script.Grammar
