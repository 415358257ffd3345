import ScriptSandbox.Script.Compile.Basic
import ScriptSandbox.Text.Lossy

/-!
Code for expressions and patterns. Every expression leaves one value on the stack; a pattern takes one.
-/

namespace ScriptSandbox.Script.Compile

structure Naming where
  name : String
  seesItself : Bool

class Recursion where
  /-- Writes a function inside the one at hand, perhaps as a class with its text. -/
  function : FunctionId → Naming → Option Units → Build Nat
  expression : Expression → Build Unit
  /-- Takes the value on top apart. -/
  pattern : Writing → Pattern → Build Unit
  statement : Statement → Build Unit

export Recursion (expression pattern statement)

variable [Recursion]

def functionOf (id : FunctionId) : Build Function := do
  return (← get).functions.getD id default

def pushText (text : Units) : Build Unit := push (.text text)

/-! ### Functions -/

def functionStart (function : Function) (seesItself : Bool) : Build Unit := do
  let info := function.info
  let own := info.kind != .arrow
  let uses (name : String) := info.mentions.contains name
  let shared (name : String) : Build Bool := return (← get).draft.isShared name
  if seesItself && uses info.name && info.name != "" then
    let itself ← declare info.name (← shared info.name) true false true
    emit .self
    emit (.write itself.place)
  modifyDraft fun d => { d with blocks := [] :: d.blocks }
  if own then
    match info.kind with
    | .constructor true =>
      let this ← declare "this" (← shared "this") false true false
      modifyDraft fun d => { d with derivedThis := some this.place }
    | .constructor false =>
      emit .this
      emit .startFields
      if uses "this" then
        let this ← declarePlain "this"
        emit .this
        emit (.write this.place)
    | _ =>
      if uses "this" then
        let this ← declarePlain "this"
        emit .this
        emit (.write this.place)
    let hides (names : List String) := names.contains "arguments"
    if uses "arguments" && info.kind != .initializer && !hides function.parameterNames &&
        !hides (function.scope.functions.map (·.1)) then
      let list ← declarePlain "arguments"
      emit .argumentList
      emit (.write list.place)
  for name in function.parameterNames.eraseDups do
    discard <| declarePlain name
  for (parameter, index) in function.parameters.zipIdx do
    emit (.argument index)
    pattern .start parameter
  match function.rest with
  | some rest =>
    emit (.argumentsFrom function.parameters.length)
    pattern .start rest
  | none => pure ()
  for name in function.varNames do
    if !function.parameterNames.contains name && !(name == "arguments" && uses "arguments" && own) then
      discard <| declarePlain name

def openScope (scope : Scope) (plain : Bool) (closure : FunctionId → Build Unit) : Build Unit := do
  for (name, constant) in scope.names do
    discard <| declare name ((← get).draft.isShared name) constant true false
  for (name, id) in scope.functions do
    let known ← pure ((← get).draft.blocks.head?.any fun block => (block.lookup name).isSome)
    if !(plain && known) then discard <| declarePlain name
    closure id
    writeName .start name

def functionEnd : Build Unit := do
  push .undefined
  leave .result

/-- A declared function on the stack; it is found by its name where it is declared. -/
def closureDeclared (id : FunctionId) : Build Unit := do
  let function ← functionOf id
  emit (.closure (← Recursion.function id ⟨function.info.name, false⟩ none))

def anyFunction (id : FunctionId) (naming : Naming) (classSource : Option Units) : Build Nat := do
  let function ← functionOf id
  let info := function.info
  child info naming.name classSource.isSome (classSource.getD info.source) do
    modifyDraft fun d => { d with field := info.kind = .initializer }
    functionStart function naming.seesItself
    openScope function.scope true closureDeclared
    if info.generator then emit .suspend
    function.body.forM statement
    functionEnd

def closureNamed (id : FunctionId) (name : String) : Build Unit := do
  let function ← functionOf id
  let naming : Naming :=
    if function.info.name == "" then ⟨name, false⟩
    else ⟨function.info.name, function.info.kind = .ordinary⟩
  emit (.closure (← Recursion.function id naming none))

def isAnonymous (functions : Array Function) : Expression → Bool
  | .function id => ((functions[id]?).map (·.info.name)) == some ""
  | .classOf none .. => true
  | .grouped inner => isAnonymous functions inner
  | _ => false

/-! ### Keys -/

def keyOf (name : Units) : Key := Key.ofUnits name

def memberKey : MemberName → Build Unit
  | .fixed name => pushText name
  | .computed key => do
    expression key
    emit .toKey
  | .secret name => readName name

/-! ### Arguments and calls -/

def areSpread (items : List Expression) : Bool :=
  items.any fun item => match item with
    | .spread _ => true
    | .hole => true
    | _ => false

def arrayOf (items : List Expression) : Build Unit := do
  emit .newArray
  for item in items do
    match item with
    | .spread values =>
      expression values
      emit .appendAll
    | .hole => emit .appendHole
    | single =>
      expression single
      emit .append

def withArguments (items : List Expression) (fixed : Nat → Instruction) (spread : Instruction) :
    Build Unit := do
  if areSpread items then
    arrayOf items
    emit spread
  else
    items.forM expression
    emit (fixed items.length)

def superReference (key : Expression) : Build Unit := do
  readName "this"
  expression key

def calleeOf (callee : Expression) : Build Unit := do
  match callee with
  | .member object name =>
    expression object
    emit .dup
    emit (.getField (keyOf name))
  | .index object key =>
    expression object
    emit .dup
    expression key
    emit .getIndex
  | .secretMember object name =>
    expression object
    emit .dup
    readName name
    emit .getSecret
  | .superMember key =>
    readName "this"
    superReference key
    emit .getSuper
  | other =>
    push .undefined
    expression other

def chainedCallee (callee : Expression) : Build Unit := do
  match callee with
  | .guarded inner =>
    calleeOf inner
    emit (.jumpAbsent 1 (← get).draft.chainEnd)
  | .grouped inner =>
    match inner with
    | .member .. => calleeOf inner
    | .index .. => calleeOf inner
    | .secretMember .. => calleeOf inner
    | _ => calleeOf callee
  | other => calleeOf other

/-- A call of the name `eval`, which evaluates text in the scope at hand if it has its first meaning. -/
def evaluation (items : List Expression) : Build Unit := do
  let seen ← visible
  let d := (← get).draft
  let scope : EvaluationScope := {
    visible := seen
    superMember := d.info.kind != .ordinary && d.info.kind != .arrow
    newTarget := d.info.kind != .arrow || !(← get).outer.isEmpty
    field := d.field }
  modifyDraft fun d => { d with scopes := d.scopes.push scope }
  items.forM expression
  emit (.evaluate items.length d.scopes.size)

def callOf (callee : Expression) (items : List Expression) : Build Unit := do
  chainedCallee callee
  match callee with
  | .name "eval" =>
    if areSpread items then withArguments items .call .callAll else evaluation items
  | _ => withArguments items .call .callAll

def afterSuper : Build Unit := do
  match ← resolve "this" with
  | some this =>
    emit (.bindThis this.place)
    readName "this"
    emit .startFields
    readName "this"
  | none => push .undefined

/-! ### Assignments -/

def named (name : String) (value : Expression) : Build Unit := do
  let functions := (← get).functions
  if isAnonymous functions value then
    match value with
    | .function id => closureNamed id name
    | .grouped (.function id) => closureNamed id name
    | .classOf none parent maker members source =>
      -- The name is only given; the class cannot see itself by it.
      expression (.classOf (some ("\x00" ++ name)) parent maker members source)
    | other => expression other
  else expression value

def placeOf (target : Expression) : Build Unit := do
  match target with
  | .member object _ => expression object
  | .index object key =>
    expression object
    expression key
  | .secretMember object name =>
    expression object
    readName name
  | .superMember key => superReference key
  | .grouped inner => expression inner
  | other => expression other

def storeAt (target : Expression) : Build Unit := do
  match target with
  | .member _ name => emit (.setField (keyOf name))
  | .secretMember .. => emit .setSecret
  | .superMember _ => emit .setSuper
  | _ => emit .setIndex

def loadFrom (target : Expression) : Build Unit := do
  match target with
  | .member _ name =>
    emit .dup
    emit (.getField (keyOf name))
  | .secretMember .. =>
    emit .dupTwo
    emit .getSecret
  | .superMember _ =>
    emit .dupTwo
    emit .getSuper
  | _ =>
    emit .toKey
    emit .dupTwo
    emit .getIndex

def partsOf : Expression → Nat
  | .member .. => 1
  | _ => 2

def compound (operator : BinaryOperator) (target value : Expression) : Build Unit := do
  match target with
  | .name name =>
    readName name
    expression value
    match operator, ← resolve name with
    | .add, some found => emit (if found.constant then .binary .add else .addTo found.place)
    | .add, none => emit (.addToGlobal name)
    | other, _ => emit (.binary other)
    emit .dup
    writeName .assign name
  | place =>
    placeOf place
    loadFrom place
    expression value
    emit (.binary operator)
    storeAt place

/-- Jumps if the value on top, which stays, settles a logical operation. -/
def jumpSettled (operator : LogicalOperator) (target : Nat) : Build Unit := do
  emit .dup
  match operator with
  | .and => emit (.jumpUnless target)
  | .or => emit (.jumpIf target)
  | .coalesce => emit (.jumpPresent target)

def logicalAssign (operator : LogicalOperator) (target value : Expression) : Build Unit := do
  let finish ← newLabel
  match target with
  | .name name =>
    readName name
    jumpSettled operator finish
    emit .pop
    named name value
    emit .dup
    writeName .assign name
  | place =>
    let settled ← newLabel
    placeOf place
    loadFrom place
    jumpSettled operator settled
    emit .pop
    expression value
    storeAt place
    emit (.jump finish)
    mark settled
    for _ in List.range (partsOf place) do
      emit .swap
      emit .pop
  mark finish

def update (up before : Bool) (target : Expression) : Build Unit := do
  match target with
  | .name name =>
    readName name
    emit .toNumeric
    if before then
      emit (.count up)
      emit .dup
    else
      emit .dup
      emit (.count up)
    writeName .assign name
  | place =>
    placeOf place
    loadFrom place
    emit .toNumeric
    if before then
      emit (.count up)
      storeAt place
    else
      emit (.insert (partsOf place))
      emit (.count up)
      storeAt place
      emit .pop

def assign (target : Pattern) (value : Expression) : Build Unit := do
  match target with
  | .name name =>
    match value with
    | .binary .add (.name left) right =>
      if left = name then compound .add (.name name) right
      else
        expression value
        emit .dup
        writeName .assign name
    | value =>
      named name value
      emit .dup
      writeName .assign name
  | .place place =>
    placeOf place
    expression value
    storeAt place
  | other =>
    expression value
    emit .dup
    pattern .assign other

/-! ### Patterns -/

/-- Takes values out of an iteration while `part` runs, and closes it whatever happens. -/
def closing (slot : Nat) (part : Build Unit) : Build Unit := do
  let failed ← newLabel
  let finish ← newLabel
  emit (.guard failed true)
  within (.iteration slot) part
  emit .unguard
  emit (.close slot)
  emit (.jump finish)
  mark failed
  emit (.closeQuietly slot)
  emit .rethrow
  mark finish

def arrayPattern (how : Writing) (items : List Pattern) (rest : Option Pattern) : Build Unit := do
  let slot ← newIteration
  emit (.iterate slot false)
  closing slot do
    for item in items do
      emit (.takeOne slot)
      pattern how item
    match rest with
    | some rest =>
      emit (.takeRest slot)
      pattern how rest
    | none => pure ()

def objectPattern (how : Writing) (members : List Member) (rest : Option Pattern) : Build Unit := do
  emit .requireObject
  let excluded ← newSlot
  let key ← newSlot
  let remember : Build Unit := do
    if rest.isSome then
      readSlot excluded
      readSlot key
      emit .append
      emit .pop
  if rest.isSome then
    emit .newArray
    writeSlot excluded
  for member in members do
    match member with
    | .matched (.computed name) inner =>
      emit .dup
      expression name
      emit .toKey
      emit .dup
      writeSlot key
      emit .getIndex
      pattern how inner
      remember
    | .matched (.fixed name) inner =>
      emit .dup
      emit (.getField (keyOf name))
      pattern how inner
      if rest.isSome then
        pushText name
        writeSlot key
        remember
    | _ => pure ()
  match rest with
  | some rest =>
    readSlot excluded
    emit .copyRest
    pattern how rest
  | none => emit .pop

def anyPattern (how : Writing) (target : Pattern) : Build Unit := do
  match target with
  | .hole => emit .pop
  | .name name => writeName how name
  | .place place =>
    let slot ← newSlot
    writeSlot slot
    placeOf place
    readSlot slot
    storeAt place
    emit .pop
  | .array items rest => arrayPattern how items rest
  | .object members rest => objectPattern how members rest
  | .defaulted inner value =>
    let present ← newLabel
    emit .dup
    emit (.jumpDefined present)
    emit .pop
    match inner with
    | .name name => named name value
    | _ => expression value
    mark present
    pattern how inner

/-! ### Objects and classes -/

def objectOf (members : List Member) : Build Unit := do
  emit .newObject
  for member in members do
    match member with
    | .property (.fixed name) value =>
      named name.toText value
      emit (.defineField (keyOf name))
    | .property key value =>
      memberKey key
      expression value
      if isAnonymous (← get).functions value then emit (.nameBy "")
      emit .define
    | .method _ key id =>
      memberKey key
      let function ← functionOf id
      closureNamed id ""
      let kind := match function.info.kind with
        | .getter => MethodKind.getter
        | .setter => .setter
        | _ => .plain
      match key with
      | .computed _ => emit (.nameBy (match kind with
        | .getter => "get "
        | .setter => "set "
        | .plain => ""))
      | _ => pure ()
      emit (.defineMethod kind true)
    | .spread source =>
      expression source
      emit .copyAll
    | .parent value =>
      expression value
      emit .setParent
    | _ => pure ()

def methodKind : FunctionKind → MethodKind
  | .getter => .getter
  | .setter => .setter
  | _ => .plain

/-- The hidden variable that holds a private method or the key of a field. -/
def hidden (position : Nat) : String := s!"\x00{position}"

def declareShared (name : String) (constant checked : Bool) : Build Variable :=
  declare name true constant checked false

def secretNames (members : List Member) : List String :=
  (members.filterMap fun member => match member with
    | .method _ (.secret name) _ => some name
    | .field _ (.secret name) _ => some name
    | _ => none).eraseDups

/-- Leaves the value of a field on the stack, where `receiver` puts the object on it. -/
def fieldValue (receiver : Build Unit) (value : Option FunctionId) : Build Unit := do
  match value with
  | none => push .undefined
  | some id =>
    receiver
    receiver
    closureNamed id ""
    emit .setHome
    emit .swap
    emit .pop
    emit (.call 0)

/-- The key of a field, its value and its definition; the object is below. -/
def defineFieldAt (receiver : Build Unit) (position : Nat) (key : MemberName)
    (value : Option FunctionId) : Build Unit := do
  match key with
  | .secret name =>
    readName name
    fieldValue receiver value
    emit (.defineSecret .plain false)
  | .fixed name =>
    fieldValue receiver value
    emit (.defineField (keyOf name))
  | .computed _ =>
    readName (hidden position)
    fieldValue receiver value
    match value with
    | some id =>
      match (← functionOf id).body with
      | [.result (some inner)] =>
        if isAnonymous (← get).functions inner then emit (.nameBy "")
      | _ => pure ()
    | none => pure ()
    emit .define

def fieldsChild (members : List Member) (info : FunctionInfo) : Build Nat :=
  child info "" false #[] do
    modifyDraft fun d => { d with field := true, blocks := [[]] }
    for (member, position) in members.zipIdx do
      match member with
      | .method false (.secret name) id =>
        let function ← functionOf id
        emit .this
        readName name
        readName (hidden position)
        emit (.defineSecret (methodKind function.info.kind) true)
        emit .pop
      | _ => pure ()
    for (member, position) in members.zipIdx do
      match member with
      | .field false key value =>
        emit .this
        defineFieldAt (emit .this) position key value
        emit .pop
      | _ => pure ()
    functionEnd

def hasInstanceParts (members : List Member) : Bool :=
  members.any fun member => match member with
    | .method false (.secret _) _ => true
    | .field false .. => true
    | _ => false

def silentInfo (info : FunctionInfo) (kind : FunctionKind) : FunctionInfo :=
  { info with kind, generator := false, async := false, strict := true, arity := 0, mentions := [] }

def defaultConstructor (name : String) (derived : Bool) (source : Units) : Build Nat := do
  let info := silentInfo (← get).draft.info (.constructor derived)
  child info name true source do
    modifyDraft fun d => { d with blocks := [[]] }
    if derived then
      let slot ← newSlot
      push .absent
      writeSlot slot
      emit .superForward
      emit (.bindThis (.slot slot))
      readSlot slot
      emit .startFields
      readSlot slot
      emit .result
    else
      emit .this
      emit .startFields
      push .undefined
      emit .result

/-- A class on the stack. The slots hold the class and its prototype while its members are made. -/
def classExpression (name : Option String) (parent : Option Expression) (maker : Option FunctionId)
    (members : List Member) (source : Units) : Build Unit := do
  -- A name that is only given begins with a mark that no name has.
  let (given, own) : String × Option String := match name with
    | none => ("", none)
    | some name =>
      if name.startsWith "\x00" then (String.ofList name.toList.tail, none) else (name, some name)
  let classSlot ← newSlot
  let prototypeSlot ← newSlot
  inBlock do
    match own with
    | some own => discard <| declareShared own true true
    | none => pure ()
    for secret in secretNames members do
      let variable_ ← declareShared secret true false
      emit (.newSecret secret)
      emit (.write variable_.place)
    match parent with
    | some parent => expression parent
    | none => push .absent
    let constructorChild ← match maker with
      | some id => Recursion.function id ⟨given, false⟩ (some source)
      | none => defaultConstructor given parent.isSome source
    emit (.classStart constructorChild parent.isSome)
    writeSlot prototypeSlot
    writeSlot classSlot
    for (member, position) in members.zipIdx do
      match member with
      | .method onClass key id =>
        let function ← functionOf id
        let kind := methodKind function.info.kind
        let target := if onClass then classSlot else prototypeSlot
        readSlot target
        match key with
        | .secret name =>
          if onClass then
            readName name
            readSlot target
            closureNamed id ""
            emit .setHome
            emit .swap
            emit .pop
            emit (.defineSecret kind true)
            emit .pop
          else
            closureNamed id ""
            emit .setHome
            let variable_ ← declareShared (hidden position) true false
            emit (.write variable_.place)
            emit .pop
        | key =>
          memberKey key
          closureNamed id ""
          match key with
          | .computed _ => emit (.nameBy (match kind with
            | .getter => "get "
            | .setter => "set "
            | .plain => ""))
          | _ => pure ()
          emit (.defineMethod kind false)
          emit .pop
      | .field _ (.computed key) _ =>
        let variable_ ← declareShared (hidden position) true false
        expression key
        emit .toKey
        emit (.write variable_.place)
      | _ => pure ()
    if hasInstanceParts members then
      readSlot prototypeSlot
      let info := silentInfo (← get).draft.info .initializer
      emit (.closure (← fieldsChild members { info with inner := info.inner, evaluates := false }))
      emit .setHome
      readSlot classSlot
      emit .swap
      emit .setFields
      emit .pop
      emit .pop
    match own with
    | some own =>
      readSlot classSlot
      writeName .start own
    | none => pure ()
    let receiver := readSlot classSlot
    for (member, position) in members.zipIdx do
      match member with
      | .field true key value =>
        receiver
        defineFieldAt receiver position key value
        emit .pop
      | .block id =>
        fieldValue receiver (some id)
        emit .pop
      | _ => pure ()
    readSlot classSlot

/-! ### Expressions -/

def deletion (operand : Expression) : Build Unit := do
  match operand with
  | .member object name =>
    expression object
    pushText name
    emit .delete
  | .index object key =>
    expression object
    expression key
    emit .delete
  | .superMember key =>
    superReference key
    emit .pop
    emit .pop
    emit (.complain .noSuperBase)
  | .name name => emit (.deleteGlobal name)
  | .chain links =>
    let finish ← newLabel
    let outer := (← get).draft.chainEnd
    let short ← newLabel
    modifyDraft fun d => { d with chainEnd := short }
    match links with
    | .member object name =>
      expression object
      pushText name
      emit .delete
    | .index object key =>
      expression object
      expression key
      emit .delete
    | other =>
      expression other
      emit .pop
      push (.boolean true)
    modifyDraft fun d => { d with chainEnd := outer }
    emit (.jump finish)
    mark short
    emit .pop
    push (.boolean true)
    mark finish
  | other =>
    expression other
    emit .pop
    push (.boolean true)

def anyExpression (found : Expression) : Build Unit := do
  match found with
  | .literal value => push value
  | .name name => readName name
  | .this =>
    match ← resolve "this" with
    | some _ => readName "this"
    | none => emit .this
  | .newTarget => emit .newTarget
  | .template texts parts =>
    match texts with
    | [] => pushText #[]
    | first :: rest =>
      pushText first
      for (part, text) in parts.zip rest do
        expression part
        emit .toText
        emit (.binary .add)
        if !text.isEmpty then
          pushText text
          emit (.binary .add)
  | .tagged tag site parts =>
    calleeOf tag
    let index := (← get).draft.sites.size
    modifyDraft fun d => { d with sites := d.sites.push site }
    emit (.templateSite index)
    parts.forM expression
    emit (.call (parts.length + 1))
  | .regexp body flags => emit (.regexp body flags)
  | .array items => arrayOf items
  | .object members => objectOf members
  | .function id => closureNamed id ""
  | .classOf name parent maker members source => classExpression name parent maker members source
  | .unary .typeOf (.name name) =>
    match ← resolve name with
    | some _ =>
      readName name
      emit (.unary .typeOf)
    | none => emit (.typeOfGlobal name (.ofString name))
  | .unary operator operand =>
    expression operand
    emit (.unary operator)
  | .delete operand => deletion operand
  | .update up before target => update up before target
  | .binary operator left right =>
    expression left
    expression right
    emit (.binary operator)
  | .logical operator left right =>
    let finish ← newLabel
    expression left
    jumpSettled operator finish
    emit .pop
    expression right
    mark finish
  | .conditional test yes no =>
    let other ← newLabel
    let finish ← newLabel
    expression test
    emit (.jumpUnless other)
    expression yes
    emit (.jump finish)
    mark other
    expression no
    mark finish
  | .assign target value => assign target value
  | .compound operator target value => compound operator target value
  | .logicalAssign operator target value => logicalAssign operator target value
  | .member object name =>
    expression object
    emit (.getField (keyOf name))
  | .index object key =>
    expression object
    expression key
    emit .getIndex
  | .secretMember object name =>
    expression object
    readName name
    emit .getSecret
  | .superMember key =>
    superReference key
    emit .getSuper
  | .chain links =>
    let outer := (← get).draft.chainEnd
    let finish ← newLabel
    modifyDraft fun d => { d with chainEnd := finish }
    expression links
    modifyDraft fun d => { d with chainEnd := outer }
    mark finish
  | .guarded link =>
    expression link
    emit (.jumpAbsent 0 (← get).draft.chainEnd)
  | .call callee items => callOf callee items
  | .construct callee items =>
    expression callee
    withArguments items .construct .constructAll
  | .superCall items =>
    withArguments items .superCall .superCallAll
    afterSuper
  | .importCall module =>
    expression module
    emit .importModule
  | .secretIn name object =>
    expression object
    readName name
    emit .hasSecret
  | .sequence first second =>
    expression first
    emit .pop
    expression second
  | .yield value =>
    expression value
    emit .yield
  | .yieldAll values =>
    let slot ← newIteration
    expression values
    emit (.iterate slot (← get).draft.info.async)
    push .undefined
    emit (.yieldAll slot)
  | .await value =>
    expression value
    emit .await
  | .grouped inner => expression inner
  | .hole => push .undefined
  | .spread values => expression values

end ScriptSandbox.Script.Compile
