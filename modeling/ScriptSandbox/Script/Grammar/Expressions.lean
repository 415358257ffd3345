import ScriptSandbox.Script.Grammar.Basic
import ScriptSandbox.Text.Lossy

/-!
Expressions. What begins like an object or an array may turn out to be a pattern, and what begins like
an expression in parentheses may turn out to be the parameters of a function: the first is settled
when an assignment sign follows, the second by looking ahead for an arrow.
-/

namespace ScriptSandbox.Script.Grammar

variable [Recursion]

/-- Takes a token that is not the usual one at this position, such as a regular expression. -/
def replaceToken (token : Token) (stop : Nat) : Parse Unit :=
  modify fun s => { s with token, stop }

def regexp : Parse Expression := do
  let source := (← read).source
  let s ← get
  match Token.regexpEnd? source source.size (s.start + 1) false with
  | none => fail "unexpected end of regexp"
  | some finish =>
    let flagsEnd := Token.skipWhile Token.isNameRest source source.size (finish + 1)
    let text (first last : Nat) : Units :=
      (source.extract first last).foldl (fun units code => (Units.ofCode code).foldl Array.push units) #[]
    let body := text (s.start + 1) finish
    let flags := text (finish + 1) flagsEnd
    match Regexp.compile body flags with
    | .error complaint => fail complaint
    | .ok _ =>
      replaceToken (.mark "/") flagsEnd
      advance
      return .regexp body flags

def templateParts : Parse (List (Option Units × Units) × List Expression) := do
  goOn ([], []) fun (texts, parts) => do
    match (← get).token with
    | .template cooked raw last =>
      let texts := (cooked, raw) :: texts
      advance
      if last then return .inr (texts.reverse, parts.reverse)
      else
        let part ← wholeExpression
        unless ← atMark "\x7d" do fail "expected '\x7d' after template expression"
        let source := (← read).source
        match Token.templateAt source (source.size + 1) (← get).stop (some #[]) #[] with
        | .error complaint => fail complaint
        | .ok (token, stop) =>
          replaceToken token stop
          return .inl (texts, part :: parts)
    | _ => fail "unexpected token in template"

def template : Parse Expression := do
  let (texts, parts) ← templateParts
  if texts.any (·.1.isNone) then fail "malformed escape sequence in string literal"
  else return .template (texts.map (·.1.getD #[])) parts

def taggedTemplate (tag : Expression) : Parse Expression := do
  let (texts, parts) ← templateParts
  return .tagged tag { cooked := texts.map (·.1), raw := texts.map (·.2) } parts

def arguments : Parse (List Expression) :=
  goOn [] fun done => do
    if ← eatMark ")" then return .inr done.reverse
    else
      let argument ← if ← eatMark "..." then pure (.spread (← wholeValue)) else wholeValue
      unless ← atMark ")" do expectMark ","
      return .inl (argument :: done)

def arrayItems : Parse Expression :=
  goOn [] fun done => do
    if ← eatMark "]" then return .inr (.array done.reverse)
    else if ← eatMark "," then return .inl (.hole :: done)
    else
      let item ← if ← eatMark "..." then pure (.spread (← assignment true)) else assignment true
      unless ← atMark "]" do expectMark ","
      return .inl (item :: done)

/-- Whether a name stands here that ends the member, so that a word before it was the name itself. -/
def atMemberEnd : Parse Bool := do
  match (← get).token with
  | .mark text => return ["(", ",", ":", "\x7d", "=", ";"].contains text
  | .eof => return true
  | _ => return false

structure Modifiers where
  generator : Bool
  async : Bool
  kind : FunctionKind

def modifier (word : String) : Parse Bool := do
  if ← atWord word then
    let before ← get
    advance
    if ← atMemberEnd then
      set before
      return false
    else return true
  else return false

def modifiers : Parse Modifiers := do
  let before ← get
  if ← modifier "async" then
    if (← get).lineBefore then
      set before
      return ⟨false, false, .method⟩
    else return ⟨← eatMark "*", true, .method⟩
  else if ← eatMark "*" then return ⟨true, false, .method⟩
  else if ← modifier "get" then
    if ← atMark "*" then
      set before
      return ⟨false, false, .method⟩
    else return ⟨false, false, .getter⟩
  else if ← modifier "set" then
    if ← atMark "*" then
      set before
      return ⟨false, false, .method⟩
    else return ⟨false, false, .setter⟩
  else return ⟨false, false, .method⟩

def nameFor (kind : FunctionKind) (key : MemberName) : String :=
  let lead := match kind with
    | .getter => "get "
    | .setter => "set "
    | _ => ""
  match key with
  | .fixed text => lead ++ text.toText
  | .secret name => lead ++ name
  | .computed _ => lead

def method (start : Nat) (how : Modifiers) (key : MemberName) : Parse FunctionId :=
  functionAt start
    { name := nameFor how.kind key, kind := how.kind, generator := how.generator, async := how.async }

def protoName : Units := Units.ofString "__proto__"

def isParentName : MemberName → Bool
  | .fixed name => name == protoName
  | _ => false

def objectMember : Parse Member := do
  if ← eatMark "..." then return .spread (← assignment true)
  else
    let start := (← get).start
    let how ← modifiers
    let plain := how.kind = .method && !how.generator && !how.async
    let shorthand ← bindableName?
    let isComputed ← atMark "["
    let key ← memberName
    match key with
    | .secret _ => fail "invalid property name"
    | _ => pure ()
    if ← atMark "(" then return .method false key (← method start how key)
    else if !plain then fail "invalid property name"
    else if ← eatMark ":" then
      let inner ← withReader (fun context => { context with allowIn := true }) (assignment true)
      if !isComputed && isParentName key then return .parent inner else return .property key inner
    else match shorthand with
      | none => fail "invalid property name"
      | some name =>
        mention name
        if ← eatMark "=" then
          let default ← wholeValue
          modify fun s => { s with pending := true }
          return .defaulted name default
        else return .property key (.name name)

def objectMembers : Parse Expression :=
  goOn ([], false) fun (done, parented) => do
    if ← eatMark "\x7d" then return .inr (.object done.reverse)
    else
      let member ← objectMember
      let isParent := match member with
        | .parent _ => true
        | _ => false
      if isParent && parented then
        -- Two parents are allowed only in a pattern.
        modify fun s => { s with pending := true }
      unless ← atMark "\x7d" do expectMark ","
      return .inl (member :: done, parented || isParent)

def fieldValue (key : MemberName) : Parse FunctionId := do
  let start := (← get).start
  let name := match key with
    | .computed _ => ""
    | key => nameFor .method key
  functionFrom start { name, kind := .initializer, generator := false, async := false } do
    let result ← wholeValue
    return { parameters := [], rest := none, statements := [.result (some result)], strict := true }

def classBlock : Parse FunctionId := do
  let start := (← get).start
  let shape : Shape := { name := "", kind := .initializer, generator := false, async := false }
  functionFrom start shape do
    let body ← braced shape [] none
    advance
    return body

/-- One element of a class body; the constructor comes apart from the others. -/
def classElement (derived : Bool) (className : String) : Parse (Member ⊕ FunctionId) := do
  let start := (← get).start
  let onClass ← modifier "static"
  if onClass && (← atMark "\x7b") then return .inl (.block (← classBlock))
  else
    let begin ← if onClass then pure (← get).start else pure start
    let how ← modifiers
    let plain := how.kind = .method && !how.generator && !how.async
    let isComputed ← atMark "["
    let key ← memberName
    let named (text : String) := !isComputed && (match key with
      | .fixed name => name == Units.ofString text
      | _ => false)
    match key with
    | .secret name => if name == "#constructor" then fail "invalid class element" else pure ()
    | _ => pure ()
    if ← atMark "(" then
      if !onClass && named "constructor" then
        if !plain then fail "invalid method name"
        else
          return .inr (← functionAt begin
            { name := className, kind := .constructor derived, generator := false, async := false })
      else if onClass && named "prototype" then fail "invalid method name"
      else return .inl (.method onClass key (← method begin how key))
    else if !plain then fail "invalid class element"
    else if named "constructor" || (onClass && named "prototype") then fail "invalid field name"
    else
      let initial ← if ← eatMark "=" then some <$> fieldValue key else pure none
      endStatement
      return .inl (.field onClass key initial)

/-- Private names that a class declares, with a mark for what is declared of each. -/
def declaredSecrets (functions : Array Function) : List Member → List (String × String)
  | [] => []
  | .method onClass (.secret name) id :: rest =>
    let kind := match ((functions[id]?).map (·.info.kind)) with
      | some .getter => "get"
      | some .setter => "set"
      | _ => "method"
    (name, kind ++ toString onClass) :: declaredSecrets functions rest
  | .field _ (.secret name) _ :: rest => (name, "field") :: declaredSecrets functions rest
  | _ :: rest => declaredSecrets functions rest

/-- Whether private names are declared once, or as a getter and a setter of one kind. -/
def areDistinct : List (String × String) → Bool
  | [] => true
  | (name, kind) :: rest =>
    (rest.all fun (other, otherKind) =>
      other != name || (kind.startsWith "get" && otherKind == kind.replace "get" "set") ||
        (kind.startsWith "set" && otherKind == kind.replace "set" "get")) && areDistinct rest

def classAfter (start : Nat) (name : Option String) : Parse Expression :=
  withReader (fun context => { context with strict := true }) do
    let parent ← if ← eatWord "extends" then some <$> Recursion.member else pure none
    expectMark "\x7b"
    let usedBefore := (← get).secrets
    modify fun s => { s with secrets := [] }
    let (members, maker) ← goOn ([], none) fun (done, maker) => do
      if ← atMark "\x7d" then return .inr (List.reverse done, maker)
      else if ← eatMark ";" then return .inl (done, maker)
      else
        match ← classElement parent.isSome (name.getD "") with
        | .inl member => return .inl (member :: done, maker)
        | .inr id =>
          if maker.isSome then fail "property constructor appears more than once"
          else return .inl (done, some id)
    advance
    let declared := declaredSecrets (← get).functions members
    unless areDistinct declared do fail "private class field is already defined"
    modify fun s => { s with
      secrets := union usedBefore (s.secrets.filter fun used => !declared.any (·.1 == used)) }
    return .classOf name parent maker members (← sourceFrom start)

def functionExpression (start : Nat) (async : Bool) : Parse Expression := do
  let generator ← eatMark "*"
  let name ← withReader (fun context => { context with generator, async }) do
    if ← atMark "(" then pure "" else bindingName
  return .function (← functionAt start { name, kind := .ordinary, generator, async })

def grouped : Parse Expression := do
  let inner ← wholeExpression
  expectMark ")"
  return .grouped inner

def variableNamed (name : String) : Parse Expression := do
  if name == "arguments" && (← read).field then fail "'arguments' identifier is not allowed in class field initializer"
  mention name
  return .name name

def primary : Parse Expression := do
  let s ← get
  match s.token with
  | .number number =>
    advance
    return .literal number
  | .octal number =>
    if (← read).strict then fail "octal literals are not allowed in strict mode"
    advance
    return .literal number
  | .text text _ octal =>
    if octal && (← read).strict then fail "octal escapes are not allowed in strict mode"
    advance
    return .literal (.text text)
  | .template .. => template
  | .secret _ => fail "unexpected private name"
  | .eof => fail "unexpected end of script"
  | .mark text =>
    if text == "(" then
      advance
      grouped
    else if text == "[" then
      advance
      arrayItems
    else if text == "\x7b" then
      advance
      objectMembers
    else if text == "/" || text == "/=" then regexp
    else fail ("unexpected token in expression: '" ++ text ++ "'")
  | .word word escaped =>
    let keyword := !escaped
    if keyword && word == "function" then
      advance
      functionExpression s.start false
    else if keyword && word == "class" then
      advance
      let name ← if (← atMark "\x7b") || (← atWord "extends") then pure none
        else some <$> withReader (fun context => { context with strict := true }) bindingName
      classAfter s.start name
    else if keyword && word == "this" then
      advance
      mention "this"
      return .this
    else if keyword && word == "null" then
      advance
      return .literal .null
    else if keyword && word == "true" then
      advance
      return .literal (.boolean true)
    else if keyword && word == "false" then
      advance
      return .literal (.boolean false)
    else if keyword && word == "async" then
      advance
      if (← atWord "function") && !(← get).lineBefore then
        advance
        functionExpression s.start true
      else variableNamed word
    else
      match ← bindableName? with
      | some name =>
        advance
        variableNamed name
      | none => fail ("unexpected token in expression: '" ++ word ++ "'")

def superKey : Parse Expression := do
  unless (← read).superMember do fail "'super' is only valid in a method"
  mention "this"
  if ← eatMark "." then
    match ← fieldName? with
    | some name =>
      advance
      return .superMember (.literal (.text name))
    | none => fail "field name expected"
  else if ← eatMark "[" then
    let key ← wholeExpression
    expectMark "]"
    return .superMember key
  else fail "invalid use of 'super'"

def head : Parse Expression := do
  if ← eatWord "super" then
    if ← atMark "(" then
      unless (← read).superCall do fail "super() is only valid in a derived class constructor"
      advance
      mention "this"
      return .superCall (← arguments)
    else superKey
  else if ← eatWord "import" then
    if ← eatMark "(" then
      let module ← wholeValue
      if ← eatMark "," then
        unless ← atMark ")" do
          discard wholeValue
          discard (eatMark ",")
      expectMark ")"
      return .importCall module
    else fail "invalid use of 'import'"
  else if ← eatWord "new" then
    if ← eatMark "." then
      unless (← atWord "target") && (← read).newTarget do fail "new.target only allowed within functions"
      advance
      mention "new.target"
      return .newTarget
    else
      if ← atWord "import" then fail "invalid use of 'import'"
      let callee ← Recursion.member
      if ← atMark "?." then fail "new keyword cannot be used with an optional chain"
      if ← eatMark "(" then return .construct callee (← arguments) else return .construct callee []
  else primary

def dotted (object : Expression) : Parse Expression := do
  match (← get).token with
  | .secret name =>
    advance
    useSecret name
    return .secretMember object name
  | _ =>
    match ← fieldName? with
    | some name =>
      advance
      return .member object name
    | none => fail "field name expected"

def bracketed (object : Expression) : Parse Expression := do
  let key ← wholeExpression
  expectMark "]"
  return .index object key

/-- A call; one of the name `eval` evaluates text in the scope at hand. -/
def callOf (callee : Expression) : Parse Expression := do
  match callee with
  | .name "eval" => modify fun s => { s with evaluates := true }
  | _ => pure ()
  return .call callee (← arguments)

def memberOnly : Parse Expression := do
  goOn (← head) fun done => do
    if ← eatMark "." then return .inl (← dotted done)
    else if ← eatMark "[" then return .inl (← bracketed done)
    else match (← get).token with
      | .template .. => return .inl (← taggedTemplate done)
      | _ => return .inr done

def accesses : Parse Expression := do
  goOn (← head, false) fun (done, chained) => do
    if ← eatMark "." then return .inl (← dotted done, chained)
    else if ← eatMark "[" then return .inl (← bracketed done, chained)
    else if ← eatMark "(" then return .inl (← callOf done, chained)
    else if ← eatMark "?." then
      let base := Expression.guarded done
      if ← eatMark "[" then return .inl (← bracketed base, true)
      else if ← eatMark "(" then return .inl (.call base (← arguments), true)
      else match (← get).token with
        | .template .. => fail "template literal cannot appear in an optional chain"
        | _ => return .inl (← dotted base, true)
    else match (← get).token with
      | .template .. =>
        if chained then fail "template literal cannot appear in an optional chain"
        else return .inl (← taggedTemplate done, chained)
      | _ => return .inr (if chained then .chain done else done)

def checkPlace (target : Expression) : Parse Unit := do
  let inner := match target with
    | .grouped inner => inner
    | other => other
  match inner with
  | .name name =>
    if (← read).strict && (name == "eval" || name == "arguments") then fail "invalid lvalue in strict mode"
  | other => unless isPlaceLike other do fail "invalid lvalue"
where
  isPlaceLike : Expression → Bool
    | .member .. => true
    | .index .. => true
    | .secretMember .. => true
    | .superMember .. => true
    | _ => false

def ungrouped : Expression → Expression
  | .grouped inner => inner
  | other => other

def unaryOperators : List (String × UnaryOperator) :=
  [("-", .minus), ("+", .plus), ("!", .not), ("~", .complement)]

def unaryExpression : Parse Expression := do
  if ← eatWord "typeof" then return .unary .typeOf (← unary)
  else if ← eatWord "void" then return .unary .void (← unary)
  else if ← eatWord "delete" then
    let operand ← unary
    match operand with
    | .name _ => if (← read).strict then fail "cannot delete a direct reference in strict mode"
    | .grouped (.name _) =>
      if (← read).strict then fail "cannot delete a direct reference in strict mode"
    | .secretMember .. => fail "cannot delete a private class field"
    | .chain (.secretMember ..) => fail "cannot delete a private class field"
    | _ => pure ()
    return .delete operand
  else if (← read).async && (← atWord "await") then
    advance
    return .await (← unary)
  else
    let mark := match (← get).token with
      | .mark text => text
      | _ => ""
    match unaryOperators.lookup mark with
    | some operator =>
      advance
      return .unary operator (← unary)
    | none =>
      if mark == "++" || mark == "--" then
        advance
        let target ← unary
        checkPlace target
        return .update (mark == "++") true (ungrouped target)
      else
        let operand ← accesses
        let after := (← get).token
        if (← get).lineBefore then return operand
        else match after with
          | .mark text =>
            if text == "++" || text == "--" then
              checkPlace operand
              advance
              return .update (text == "++") false (ungrouped operand)
            else return operand
          | _ => return operand

def operators : List (String × Nat × (BinaryOperator ⊕ LogicalOperator)) :=
  [("??", 1, .inr .coalesce), ("||", 2, .inr .or), ("&&", 3, .inr .and),
    ("|", 4, .inl .bitOr), ("^", 5, .inl .bitXor), ("&", 6, .inl .bitAnd),
    ("==", 7, .inl .equal), ("!=", 7, .inl .notEqual), ("===", 7, .inl .same), ("!==", 7, .inl .notSame),
    ("<", 8, .inl .less), (">", 8, .inl .greater), ("<=", 8, .inl .lessEqual), (">=", 8, .inl .greaterEqual),
    ("<<", 9, .inl .shiftLeft), (">>", 9, .inl .shiftRight), (">>>", 9, .inl .shiftRightUnsigned),
    ("+", 10, .inl .add), ("-", 10, .inl .subtract),
    ("*", 11, .inl .multiply), ("/", 11, .inl .divide), ("%", 11, .inl .modulo), ("**", 12, .inl .power)]

def operator? : Parse (Option (Nat × (BinaryOperator ⊕ LogicalOperator))) := do
  match (← get).token with
  | .mark text => return operators.lookup text
  | .word "instanceof" false => return some (8, .inl .instanceOf)
  | .word "in" false => return if (← read).allowIn then some (8, .inl .contains) else none
  | _ => return none

def isBareLogical (wanted : LogicalOperator → Bool) : Expression → Bool
  | .logical operator .. => wanted operator
  | _ => false

def isBareUnary : Expression → Bool
  | .unary .. => true
  | .delete _ => true
  | .await _ => true
  | _ => false

/-- Operands with operators of at least a rank between them. -/
def binaryExpression (least : Nat) : Parse Expression := do
  let first ← match (← get).token with
    | .secret name => do
      advance
      unless (← atWord "in") && (← read).allowIn && least ≤ 8 do fail "unexpected private name"
      advance
      useSecret name
      pure (.secretIn name (← binary 9))
    | _ => unary
  goOn first fun left => do
    match ← operator? with
    | none => return .inr left
    | some (rank, operator) =>
      if rank < least then return .inr left
      else
        if rank = 12 && isBareUnary left then
          fail "unparenthesized unary expression can't appear on the left-hand side of '**'"
        advance
        let right ← binary (if rank = 12 then 12 else rank + 1)
        match operator with
        | .inl operator => return .inl (.binary operator left right)
        | .inr .coalesce =>
          let mixed := isBareLogical (· != .coalesce)
          if mixed left || mixed right then fail "cannot mix ?? with && or ||"
          else return .inl (.logical .coalesce left right)
        | .inr operator =>
          let mixed := isBareLogical (· == .coalesce)
          if mixed left || mixed right then fail "cannot mix ?? with && or ||"
          else return .inl (.logical operator left right)

def conditional : Parse Expression := do
  let test ← binary 0
  if ← eatMark "?" then
    let yes ← wholeValue
    expectMark ":"
    return .conditional test yes (← value)
  else return test

def arrowBody (shape : Shape) (parameters : List Pattern) (rest : Option Pattern)
    (allowIn : Bool) : Parse Body := do
  if (← get).lineBefore then fail "line break not allowed before '=>'"
  expectMark "=>"
  if ← atMark "\x7b" then
    let body ← braced shape parameters rest
    advance
    return body
  else
    checkParameters shape (← read).strict (areSimple parameters rest)
    let result ← withReader (fun context => { context with allowIn }) value
    return { parameters, rest, statements := [.result (some result)], strict := (← read).strict }

def arrowHead : Parse (List Pattern × Option Pattern) := do
  if ← eatMark "(" then parameters
  else
    let name ← bindingName
    declare .parameter name
    return ([.name name], none)

def arrow? : Parse (Option Expression) := do
  let s ← get
  let allowIn := (← read).allowIn
  let read (async : Bool) : Parse (Option Expression) := do
    let shape : Shape := { name := "", kind := .arrow, generator := false, async }
    let inside (part : Parse Unit) : Parse Unit :=
      discard <| functionFrom s.start shape do
        part
        return { parameters := [], rest := none, statements := [], strict := true }
    if ← looksLike (inside do
        discard arrowHead
        unless (← atMark "=>") && !(← get).lineBefore do fail "no arrow") then
      return some (.function (← functionFrom s.start shape do
        let (parameters, rest) ← arrowHead
        arrowBody shape parameters rest allowIn))
    else return none
  match s.token with
  | .mark "(" => read false
  | .word "async" false =>
    advance
    let plain := (← get).lineBefore || (← atMark "=>")
    if plain then
      set s
      read false
    else match ← read true with
      | some found => return some found
      | none =>
        set s
        return none
  | .word _ _ => match ← bindableName? with
    | some _ =>
      if ← looksLike (do
          advance
          unless ← atMark "=>" do fail "no arrow") then read false
      else return none
    | none => return none
  | _ => return none

def compoundOperators : List (String × BinaryOperator) :=
  [("+=", .add), ("-=", .subtract), ("*=", .multiply), ("/=", .divide), ("%=", .modulo),
    ("**=", .power), ("<<=", .shiftLeft), (">>=", .shiftRight), (">>>=", .shiftRightUnsigned),
    ("&=", .bitAnd), ("|=", .bitOr), ("^=", .bitXor)]

def logicalOperators : List (String × LogicalOperator) :=
  [("&&=", .and), ("||=", .or), ("??=", .coalesce)]

def yieldExpression : Parse Expression := do
  advance
  let s ← get
  let ends := s.lineBefore || (match s.token with
    | .eof => true
    | .mark text => [")", "]", "\x7d", ",", ";", ":"].contains text
    | .word "in" _ => true
    | _ => false)
  if ends then return .yield (.literal .undefined)
  else if ← eatMark "*" then return .yieldAll (← value)
  else return .yield (← value)

def assignmentExpression (cover : Bool) : Parse Expression := do
  if (← read).generator && (← atWord "yield") then yieldExpression
  else match ← arrow? with
    | some function => return function
    | none =>
      let outer := (← get).pending
      modify fun s => { s with pending := false }
      let left ← conditional
      let mark := match (← get).token with
        | .mark text => text
        | _ => ""
      if mark == "=" then
        let pattern ← asPattern left
        modify fun s => { s with pending := outer }
        advance
        return .assign pattern (← value)
      else
        if (← get).pending && !cover then fail "invalid object literal"
        modify fun s => { s with pending := s.pending || outer }
        match compoundOperators.lookup mark, logicalOperators.lookup mark with
        | some operator, _ =>
          checkPlace left
          advance
          return .compound operator (ungrouped left) (← value)
        | none, some operator =>
          checkPlace left
          advance
          return .logicalAssign operator (ungrouped left) (← value)
        | none, none => return left

end ScriptSandbox.Script.Grammar
