import ScriptSandbox.Script.Regexp
import ScriptSandbox.Script.Tree

/-!
The ground of the grammar: the token at hand, what the place in the script allows, the names that are
declared and mentioned on the way, and the record of the parts of the grammar that contain each other.
-/

namespace ScriptSandbox.Script.Grammar

structure Context where
  source : Token.Source
  strict : Bool
  /-- Whether this is inside a function that can return. -/
  returns : Bool
  generator : Bool
  async : Bool
  superCall : Bool
  superMember : Bool
  newTarget : Bool
  /-- Whether this is code of a class field, where `arguments` has no meaning. -/
  field : Bool
  /-- Labels around this place, and whether each belongs to a loop. -/
  labels : List (String × Bool)
  breaks : Bool
  turns : Bool
  /-- Whether `in` is an operator here. -/
  allowIn : Bool
  /-- Private names that code around the script declares. -/
  secrets : List String

structure Block where
  names : List (String × Bool)
  functions : List (String × FunctionId)
  /-- Parameters of a handler, which `var` may redeclare. -/
  lenient : List String
  /-- The number of variables declared before the block began. -/
  before : Nat

structure State where
  token : Token
  /-- Where the token at hand begins and ends, and where the one before it ended. -/
  start : Nat
  stop : Nat
  previous : Nat
  /-- Whether a line ends before the token at hand. -/
  lineBefore : Bool
  functions : Array Function
  mentions : List String
  inner : List String
  evaluates : Bool
  /-- Variables of the function at hand, the latest first. -/
  varNames : List String
  parameters : List String
  blocks : List Block
  /-- Private names that were used and are not yet declared. -/
  secrets : List String
  /-- Whether an object with a default value waits to become a pattern. -/
  pending : Bool

abbrev Parse := ReaderT Context (StateT State (Except String))

def fail (complaint : String) : Parse α := throw complaint

/-- Goes on in the same way until there is a result; the number bounds the turns. -/
def turns (step : σ → Parse (σ ⊕ α)) : Nat → σ → Parse α
  | 0, _ => fail "script too long"
  | count + 1, state => do
    match ← step state with
    | .inl state => turns step count state
    | .inr result => return result

def goOn (start : σ) (step : σ → Parse (σ ⊕ α)) : Parse α := do
  turns step ((← read).source.size + 2) start

def advance : Parse Unit := do
  let source := (← read).source
  let s ← get
  let (start, lineBefore) ← Token.skipBlanks source (source.size + 1) s.stop false
  let (token, stop) ← Token.scan source start
  set { s with previous := s.stop, token, start, stop, lineBefore }

def attempt (part : Parse α) : Parse (Option α) := fun context state =>
  match part context state with
  | .ok (result, state) => .ok (some result, state)
  | .error _ => .ok (none, state)

/-- Whether a part of the grammar stands here; nothing is taken. -/
def looksLike (part : Parse Unit) : Parse Bool := fun context state =>
  match part context state with
  | .ok _ => .ok (true, state)
  | .error _ => .ok (false, state)

def atMark (text : String) : Parse Bool := do
  match (← get).token with
  | .mark found => return found == text
  | _ => return false

def atWord (text : String) : Parse Bool := do
  match (← get).token with
  | .word found escaped => return found == text && !escaped
  | _ => return false

def eatMark (text : String) : Parse Bool := do
  if ← atMark text then
    advance
    return true
  else return false

def eatWord (text : String) : Parse Bool := do
  if ← atWord text then
    advance
    return true
  else return false

def expectMark (text : String) : Parse Unit := do
  unless ← eatMark text do fail ("expecting '" ++ text ++ "'")

def expectWord (text : String) : Parse Unit := do
  unless ← eatWord text do fail ("expecting '" ++ text ++ "'")

/-- The end of a statement: a semicolon, or a place where one may be left out. -/
def endStatement : Parse Unit := do
  unless ← eatMark ";" do
    let s ← get
    unless s.lineBefore || (← atMark "\x7d") do
      match s.token with
      | .eof => pure ()
      | _ => fail "expecting ';'"

def sourceFrom (start : Nat) : Parse Units := do
  let codes := (← read).source.extract start (← get).previous
  return codes.foldl (fun units code => (Units.ofCode code).foldl Array.push units) #[]

/-! ### Names -/

def keywords : List String :=
  ["break", "case", "catch", "class", "const", "continue", "debugger", "default", "delete", "do",
    "else", "enum", "export", "extends", "false", "finally", "for", "function", "if", "import", "in",
    "instanceof", "new", "null", "return", "super", "switch", "this", "throw", "true", "try",
    "typeof", "var", "void", "while", "with"]

def strictKeywords : List String :=
  ["implements", "interface", "let", "package", "private", "protected", "public", "static", "yield"]

def isReserved (context : Context) (name : String) : Bool :=
  keywords.contains name || (context.strict && strictKeywords.contains name) ||
    (context.async && name == "await") || (context.generator && name == "yield")

def mention (name : String) : Parse Unit :=
  modify fun s => if s.mentions.contains name then s else { s with mentions := name :: s.mentions }

def bindableName? : Parse (Option String) := do
  match (← get).token with
  | .word name _ => return if isReserved (← read) name then none else some name
  | _ => return none

def bindingName : Parse String := do
  match ← bindableName? with
  | some name =>
    if (← read).strict && (name == "eval" || name == "arguments") then
      fail "invalid variable name in strict mode"
    else
      advance
      return name
  | none => fail "variable name expected"

inductive Declared where
  | parameter
  | var
  | lexical (constant : Bool)
  | handlerParameter (simple : Bool)

def redefinition : Parse α := fail "redeclaration"

def declare (how : Declared) (name : String) : Parse Unit := do
  let s ← get
  match how with
  | .parameter => set { s with parameters := name :: s.parameters }
  | .var =>
    if s.blocks.any fun block =>
        (block.names.any (·.1 == name) && !block.lenient.contains name) ||
          (block.functions.any (·.1 == name) && s.blocks.length != 1 &&
            !(s.blocks.getLast?.any fun outer => outer.functions.any (·.1 == name))) then redefinition
    else set { s with varNames := name :: s.varNames }
  | .lexical constant =>
    if name == "let" then fail "invalid lexical variable name"
    else match s.blocks with
      | [] => set s
      | block :: rest =>
        let varsInside := s.varNames.take (s.varNames.length - block.before)
        if block.names.any (·.1 == name) || block.functions.any (·.1 == name) ||
            varsInside.contains name || (rest.isEmpty && s.parameters.contains name) then redefinition
        else
          let block := { block with names := block.names ++ [(name, constant)] }
          set { s with blocks := block :: rest }
  | .handlerParameter simple =>
    match s.blocks with
    | [] => set s
    | block :: rest =>
      if block.names.any (·.1 == name) then redefinition
      else
        let lenient := if simple then name :: block.lenient else block.lenient
        let block := { block with names := block.names ++ [(name, false)], lenient }
        set { s with blocks := block :: rest }

def declareFunction (name : String) (id : FunctionId) : Parse Unit := do
  let s ← get
  match s.blocks with
  | [] => pure ()
  | block :: rest =>
    let varsInside := s.varNames.take (s.varNames.length - block.before)
    let clashes := block.names.any (·.1 == name) ||
      (!rest.isEmpty && (varsInside.contains name ||
        ((← read).strict && block.functions.any (·.1 == name))))
    if clashes then redefinition
    else
      let functions := block.functions.filter (·.1 != name) ++ [(name, id)]
      set { s with blocks := { block with functions } :: rest }

def inBlock (part : Parse α) : Parse (α × Scope) := do
  modify fun s => { s with
    blocks := { names := [], functions := [], lenient := [], before := s.varNames.length } :: s.blocks }
  let result ← part
  let s ← get
  match s.blocks with
  | block :: rest =>
    set { s with blocks := rest }
    return (result, { names := block.names, functions := block.functions })
  | [] => return (result, default)

class Recursion where
  /-- An assignment expression; the flag says whether it may still become a pattern. -/
  assignment : Bool → Parse Expression
  unary : Parse Expression
  binary : Nat → Parse Expression
  member : Parse Expression
  statement : Parse Statement
  bindingPattern : Declared → Parse Pattern
  /-- The pattern that an expression on the left of an assignment stands for. -/
  asPattern : Expression → Parse Pattern

export Recursion (assignment unary binary statement bindingPattern asPattern)

variable [Recursion]

def value : Parse Expression := assignment false

def expression : Parse Expression := do
  let first ← value
  goOn first fun done => do
    if ← eatMark "," then return .inl (.sequence done (← value))
    else return .inr done

def wholeExpression : Parse Expression :=
  withReader (fun context => { context with allowIn := true }) expression

def wholeValue : Parse Expression :=
  withReader (fun context => { context with allowIn := true }) value

/-- A name after a dot or before a colon, keywords included. -/
def fieldName? : Parse (Option Units) := do
  match (← get).token with
  | .word name _ => return some (Units.ofString name)
  | _ => return none

def useSecret (name : String) : Parse Unit := do
  mention name
  modify fun s => if s.secrets.contains name then s else { s with secrets := name :: s.secrets }

def memberName : Parse MemberName := do
  match (← get).token with
  | .word name _ =>
    advance
    return .fixed (Units.ofString name)
  | .text text _ octal =>
    if octal && (← read).strict then fail "octal escapes are not allowed in strict mode"
    advance
    return .fixed text
  | .number number =>
    advance
    match number with
    | .integer n => return .fixed (Units.ofString (toString n))
    | .bigint n => return .fixed (Units.ofString (toString n))
    | .number x => return .fixed (Units.ofString (Number.text x))
    | _ => fail "invalid property name"
  | .secret name =>
    advance
    return .secret name
  | _ =>
    if ← eatMark "[" then
      let key ← wholeValue
      expectMark "]"
      return .computed key
    else fail "invalid property name"

/-! ### Functions -/

structure Shape where
  name : String
  kind : FunctionKind
  generator : Bool
  async : Bool

def Shape.isArrow (shape : Shape) : Bool := shape.kind = .arrow

def Shape.context (shape : Shape) (context : Context) : Context :=
  let own := !shape.isArrow
  { context with
    returns := shape.kind != .initializer
    generator := shape.generator
    async := shape.async
    superCall := if own then (match shape.kind with
      | .constructor derived => derived
      | _ => false) else context.superCall
    superMember := if own then shape.kind != .ordinary else context.superMember
    newTarget := own || context.newTarget
    field := if own then shape.kind = .initializer else context.field
    labels := []
    breaks := false
    turns := false
    allowIn := true }

/-- Names that belong to a function and are not looked for outside it. -/
def ownNames : List String := ["this", "arguments", "new.target"]

def union (a b : List String) : List String :=
  b.foldl (fun names name => if names.contains name then names else name :: names) a

structure Body where
  parameters : List Pattern
  rest : Option Pattern
  statements : List Statement
  strict : Bool

/-- The number of parameters before the first one with a default value. -/
def arity : List Pattern → Nat
  | [] => 0
  | .defaulted .. :: _ => 0
  | _ :: rest => arity rest + 1

def functionFrom (start : Nat) (shape : Shape) (part : Parse Body) : Parse FunctionId := do
  let outer ← get
  set { outer with mentions := [], inner := [], evaluates := false, varNames := [], parameters := []
                   blocks := [] }
  let (body, scope) ← withReader shape.context (inBlock part)
  let found ← get
  let evaluates := found.evaluates
  let mentions := union found.mentions found.inner
  let mentions := if evaluates then union mentions ownNames else mentions
  let info : FunctionInfo := {
    name := shape.name, kind := shape.kind, generator := shape.generator, async := shape.async
    strict := body.strict, source := ← sourceFrom start, mentions, inner := found.inner, evaluates
    arity := arity body.parameters }
  let function : Function := {
    info, parameters := body.parameters, rest := body.rest
    parameterNames := found.parameters.reverse, varNames := found.varNames.reverse.eraseDups
    scope, body := body.statements }
  let passed := if shape.isArrow then mentions else mentions.filter (!ownNames.contains ·)
  set { found with
    functions := found.functions.push function
    mentions := outer.mentions, inner := union outer.inner passed
    evaluates := outer.evaluates || evaluates, varNames := outer.varNames
    parameters := outer.parameters, blocks := outer.blocks }
  return found.functions.size

def areSimple (parameters : List Pattern) (rest : Option Pattern) : Bool :=
  rest.isNone && parameters.all fun pattern =>
    match pattern with
    | .name _ => true
    | _ => false

def checkParameters (shape : Shape) (strict simple : Bool) : Parse Unit := do
  let names := (← get).parameters
  if (strict || !simple || shape.kind != .ordinary) && names.eraseDups.length != names.length then
    fail "duplicate parameter names not allowed in this context"
  if strict && names.any fun name => name == "eval" || name == "arguments" then
    fail "invalid argument name in strict code"

def parameters : Parse (List Pattern × Option Pattern) :=
  goOn ([], none) fun (done, rest) => do
    if ← eatMark ")" then return .inr (done.reverse, rest)
    else if ← eatMark "..." then
      let rest ← bindingPattern .parameter
      expectMark ")"
      return .inr (done.reverse, some rest)
    else
      let pattern ← bindingPattern .parameter
      let pattern ← if ← eatMark "=" then pure (.defaulted pattern (← wholeValue)) else pure pattern
      unless ← atMark ")" do expectMark ","
      return .inl (pattern :: done, rest)

def isStrictDirective (token : Token) (statement : Statement) : Bool :=
  match token, statement with
  | .text text true _, .expression (.literal _) => text == Units.ofString "use strict"
  | _, _ => false

def isDirective : Statement → Bool
  | .expression (.literal (.text _)) => true
  | _ => false

def statements (closed : Bool) (simple : Bool) : Parse (List Statement × Bool) := do
  goOn ([], true, (← read).strict) fun (done, opening, strict) => do
    let ended ← if closed then atMark "\x7d" else pure (match (← get).token with
      | .eof => true
      | _ => false)
    if ended then return .inr (done.reverse, strict)
    else
      let token := (← get).token
      let next ← withReader (fun context => { context with strict }) statement
      let asks := opening && isStrictDirective token next
      if asks && !simple then fail "\"use strict\" not allowed in function with default or destructuring parameter"
      return .inl (next :: done, opening && isDirective next, strict || asks)

def braced (shape : Shape) (parameters : List Pattern) (rest : Option Pattern) : Parse Body := do
  unless ← atMark "\x7b" do fail "expecting '\x7b'"
  advance
  let simple := areSimple parameters rest
  let (statements, strict) ← statements true simple
  checkParameters shape strict simple
  return { parameters, rest, statements, strict }

def parametersAndBody (shape : Shape) : Parse Body := do
  expectMark "("
  let (found, rest) ← parameters
  match shape.kind with
  | .getter => unless found.isEmpty && rest.isNone do fail "invalid number of arguments for getter or setter"
  | .setter => unless found.length = 1 && rest.isNone do fail "invalid number of arguments for getter or setter"
  | _ => pure ()
  let body ← braced shape found rest
  -- The closing brace belongs to the function, and ends its text.
  advance
  return body

def functionAt (start : Nat) (shape : Shape) : Parse FunctionId :=
  functionFrom start shape (parametersAndBody shape)

end ScriptSandbox.Script.Grammar
