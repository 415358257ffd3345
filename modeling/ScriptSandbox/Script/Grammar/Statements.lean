import ScriptSandbox.Script.Grammar.Expressions

/-!
Statements and declarations.
-/

namespace ScriptSandbox.Script.Grammar

variable [Recursion]

def block : Parse Statement := do
  let (body, scope) ← inBlock do
    goOn [] fun done => do
      if ← eatMark "\x7d" then return .inr (List.reverse done)
      else return .inl ((← statement) :: done)
  return .block scope body

def bracedBlock : Parse Statement := do
  expectMark "\x7b"
  block

def functionDeclaration (start : Nat) (async : Bool) : Parse Statement := do
  let generator ← eatMark "*"
  let name ← bindingName
  let id ← functionAt start { name, kind := .ordinary, generator, async }
  declareFunction name id
  return .function id

def bindings (kind : DeclarationKind) (how : Declared) (needValues : Bool) :
    Parse (List (Pattern × Option Expression)) :=
  goOn [] fun done => do
    let pattern ← bindingPattern how
    let initial ← if ← eatMark "=" then some <$> value else pure none
    if needValues && initial.isNone then
      match pattern with
      | .name _ => if kind = .constant then fail "missing initializer for const variable"
      | _ => fail "missing initializer for pattern"
    let done := (pattern, initial) :: done
    if ← eatMark "," then return .inl done else return .inr done.reverse

def declarationKind? : Parse (Option (DeclarationKind × Declared)) := do
  if ← atWord "var" then return some (.var, .var)
  else if ← atWord "let" then return some (.lexical, .lexical false)
  else if ← atWord "const" then return some (.constant, .lexical true)
  else return none

/-- A statement in a place that allows no declaration. -/
def nested : Parse Statement := do
  let lexical ← pure ((← atWord "const") || (← atWord "class") || (← atWord "let"))
  if lexical then fail "lexical declarations can't appear in single-statement context"
  else if ← atWord "function" then fail "function declarations can't appear in single-statement context"
  else statement

def loopBody : Parse Statement :=
  withReader (fun context => { context with breaks := true, turns := true, allowIn := true }) nested

def parenthesized : Parse Expression := do
  expectMark "("
  let found ← wholeExpression
  expectMark ")"
  return found

def counted (start : Statement) : Parse (Scope → Statement) := do
  let test ← if ← atMark ";" then pure none else some <$> wholeExpression
  expectMark ";"
  let update ← if ← atMark ")" then pure none else some <$> wholeExpression
  expectMark ")"
  let body ← loopBody
  return fun scope => .loop scope start test update body

def over? (target : LoopTarget) (waits : Bool) : Parse (Option (Scope → Statement)) := do
  if ← eatWord "of" then
    let source ← wholeValue
    expectMark ")"
    let body ← loopBody
    return some fun scope => .forOf waits scope target source body
  else if !waits && (← atWord "in") then
    advance
    let source ← wholeExpression
    expectMark ")"
    let body ← loopBody
    return some fun scope => .forIn scope target source body
  else return none

def forStatement : Parse Statement := do
  let waits ← if (← read).async && (← atWord "await") then do
      advance
      pure true
    else pure false
  expectMark "("
  let (build, scope) ← inBlock do
    let withoutIn {α : Type} (part : Parse α) : Parse α :=
      withReader (fun context => { context with allowIn := false }) part
    if !waits && (← eatMark ";") then counted .empty
    else match ← declarationKind? with
      | some (kind, how) =>
        advance
        let before ← get
        -- One name without a value may stand before `of` and `in`.
        let single ← attempt do
          let pattern ← bindingPattern how
          unless (← atWord "of") || (← atWord "in") do fail "no loop over values"
          pure pattern
        match single with
        | some pattern =>
          match ← over? (.declaration kind pattern) waits with
          | some build => pure build
          | none => fail "expecting 'of' or 'in'"
        | none =>
          set before
          if waits then fail "'for await' loop should be used with 'of'"
          let found ← withoutIn (bindings kind how true)
          expectMark ";"
          counted (.declaration kind found)
      | none =>
        let asyncStart ← atWord "async"
        let outer := (← get).pending
        let start := (← get).start
        modify fun s => { s with pending := false }
        let before ← get
        let single ← attempt do
          let target ← withoutIn accesses
          unless (← atWord "of") || (← atWord "in") do fail "no loop over values"
          if asyncStart && (← atWord "of") && !waits && (before.stop = (← get).previous) then
            fail "'for of' expression cannot start with 'async'"
          let pattern ← asPattern target
          modify fun s => { s with pending := outer }
          pure pattern
        match single with
        | some pattern =>
          match ← over? (.pattern pattern) waits with
          | some build => pure build
          | none => fail s!"expecting 'of' or 'in' after {start}"
        | none =>
          set { before with pending := outer }
          if waits then fail "'for await' loop should be used with 'of'"
          let found ← withoutIn expression
          expectMark ";"
          counted (.expression found)
  return build scope

def cases : Parse (List SwitchCase) :=
  goOn ([], false) fun (done, hasDefault) => do
    if ← eatMark "\x7d" then return .inr (List.reverse done)
    else
      let test ← if ← eatWord "case" then some <$> wholeExpression
        else do
          expectWord "default"
          if hasDefault then fail "duplicate default"
          pure none
      expectMark ":"
      let body ← goOn [] fun found => do
        if (← atMark "\x7d") || (← atWord "case") || (← atWord "default") then
          return .inr (List.reverse found)
        else return .inl ((← statement) :: found)
      return .inl (.mk test body :: done, hasDefault || test.isNone)

def switchStatement : Parse Statement := do
  let subject ← parenthesized
  expectMark "\x7b"
  let (found, scope) ← withReader (fun context => { context with breaks := true }) (inBlock cases)
  return .switch subject scope found

def tryStatement : Parse Statement := do
  let body ← bracedBlock
  let guarded ← if ← eatWord "catch" then
      let ((parameter, handler), scope) ← inBlock do
        let parameter ← if ← eatMark "(" then
            let simple := !(← atMark "[") && !(← atMark "\x7b")
            let pattern ← bindingPattern (.handlerParameter simple)
            expectMark ")"
            pure (some pattern)
          else pure none
        expectMark "\x7b"
        let handler ← goOn [] fun done => do
          if ← eatMark "\x7d" then return .inr (List.reverse done)
          else return .inl ((← statement) :: done)
        pure (parameter, handler)
      pure (some (Statement.handled body scope parameter handler))
    else pure none
  if ← eatWord "finally" then return .finished (guarded.getD body) (← bracedBlock)
  else match guarded with
    | some found => return found
    | none => fail "expecting catch or finally"

def label? : Parse (Option String) := do
  if (← get).lineBefore then return none
  else match ← bindableName? with
    | some name =>
      advance
      return some name
    | none => return none

def breakStatement : Parse Statement := do
  match ← label? with
  | some label =>
    unless (← read).labels.any (·.1 == label) do fail "break/continue label not found"
    endStatement
    return .breakTo (some label)
  | none =>
    unless (← read).breaks do fail "break must be inside loop or switch"
    endStatement
    return .breakTo none

def continueStatement : Parse Statement := do
  match ← label? with
  | some label =>
    unless (← read).labels.contains (label, true) do fail "break/continue label not found"
    endStatement
    return .continueTo (some label)
  | none =>
    unless (← read).turns do fail "continue must be inside loop"
    endStatement
    return .continueTo none

def returnStatement : Parse Statement := do
  unless (← read).returns do fail "return not in a function"
  let s ← get
  let ends := s.lineBefore || (← atMark ";") || (← atMark "\x7d") || (match s.token with
    | .eof => true
    | _ => false)
  let found ← if ends then pure none else some <$> wholeExpression
  endStatement
  return .result found

def throwStatement : Parse Statement := do
  if (← get).lineBefore then fail "line terminator not allowed after throw"
  let found ← wholeExpression
  endStatement
  return .raise found

def atLoop : Parse Bool := do
  let rec past : Nat → Parse Bool
    | 0 => return false
    | steps + 1 => do
      if (← atWord "for") || (← atWord "while") || (← atWord "do") then return true
      else match ← bindableName? with
        | some _ =>
          advance
          if ← eatMark ":" then past steps else return false
        | none => return false
  let before ← get
  let found ← past before.stop.succ
  set before
  return found

def expressionStatement : Parse Statement := do
  match ← bindableName? with
  | some name =>
    let before ← get
    advance
    if ← eatMark ":" then
      if (← read).labels.any (·.1 == name) then fail "duplicate label name"
      let loops ← atLoop
      let body ← withReader (fun context => { context with labels := (name, loops) :: context.labels }) do
        if (← atWord "function") && !(← read).strict then statement else nested
      return .labelled name body
    else
      set before
      let found ← wholeExpression
      endStatement
      return .expression found
  | none =>
    let found ← wholeExpression
    endStatement
    return .expression found

def anyStatement : Parse Statement := do
  let s ← get
  match s.token with
  | .mark "\x7b" =>
    advance
    block
  | .mark ";" =>
    advance
    return .empty
  | .word word false =>
    if word == "var" || word == "let" || word == "const" then
      match ← declarationKind? with
      | some (kind, how) =>
        advance
        let found ← withReader (fun context => { context with allowIn := true }) (bindings kind how true)
        endStatement
        return .declaration kind found
      | none => fail "declaration expected"
    else if word == "function" then
      advance
      functionDeclaration s.start false
    else if word == "async" then
      let isFunction ← looksLike do
        advance
        unless (← atWord "function") && !(← get).lineBefore do fail "no function"
      if isFunction then
        advance
        advance
        functionDeclaration s.start true
      else expressionStatement
    else if word == "class" then
      advance
      let name ← withReader (fun context => { context with strict := true }) bindingName
      declare (.lexical false) name
      return .classOf name (← classAfter s.start (some name))
    else if word == "if" then
      advance
      let test ← parenthesized
      let yes ← nested
      let no ← if ← eatWord "else" then nested else pure .empty
      return .conditional test yes no
    else if word == "for" then
      advance
      forStatement
    else if word == "while" then
      advance
      let test ← parenthesized
      return .whileLoop test (← loopBody)
    else if word == "do" then
      advance
      let body ← loopBody
      expectWord "while"
      let test ← parenthesized
      discard (eatMark ";")
      return .doLoop body test
    else if word == "break" then
      advance
      breakStatement
    else if word == "continue" then
      advance
      continueStatement
    else if word == "return" then
      advance
      returnStatement
    else if word == "throw" then
      advance
      throwStatement
    else if word == "try" then
      advance
      tryStatement
    else if word == "switch" then
      advance
      switchStatement
    else if word == "debugger" then
      advance
      endStatement
      return .empty
    else if word == "import" then
      let isCall ← looksLike do
        advance
        expectMark "("
      if isCall then expressionStatement else fail "import is only valid in module code"
    else if word == "export" then fail "export is only valid in module code"
    else if word == "with" then fail "'with' is not available"
    else expressionStatement
  | _ => expressionStatement

end ScriptSandbox.Script.Grammar
