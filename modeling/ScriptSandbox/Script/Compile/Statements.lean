import ScriptSandbox.Script.Compile.Expressions

/-!
Code for statements. A statement leaves nothing on the stack; in a script whose value is wanted, it may
put a value into the slot for it.
-/

namespace ScriptSandbox.Script.Compile

variable [Recursion]

/-- The value of the script becomes `undefined`, as at the start of a statement with parts. -/
def clearCompletion : Build Unit := do
  match (← get).draft.completion with
  | some slot =>
    push .undefined
    writeSlot slot
  | none => pure ()

def inScope (scope : Scope) (part : Build Unit) : Build Unit :=
  inBlock do
    openScope scope false closureDeclared
    part

def renewCells (scope : Scope) : Build Unit := do
  for (name, _) in scope.names do
    match ← resolve name with
    | some { place := .cell cell, .. } => emit (.renew cell)
    | _ => pure ()

def declaration (kind : DeclarationKind) (bindings : List (Pattern × Option Expression)) : Build Unit := do
  let how := if kind = .var then Writing.assign else .start
  for (target, initial) in bindings do
    match target, initial with
    | .name name, some value =>
      named name value
      writeName how name
    | .name name, none =>
      if kind != .var then
        push .undefined
        writeName how name
    | other, some value =>
      expression value
      pattern how other
    | _, none => pure ()

def loop (scope : Scope) (start : Statement) (test update : Option Expression) (body : Statement) :
    Build Unit := do
  let labels ← takeLabels
  inScope scope do
    statement start
    clearCompletion
    let turn ← newLabel
    let next ← newLabel
    let finish ← newLabel
    renewCells scope
    mark turn
    match test with
    | some test =>
      expression test
      emit (.jumpUnless finish)
    | none => pure ()
    within (.loop labels finish next) (statement body)
    mark next
    renewCells scope
    match update with
    | some update =>
      expression update
      emit .pop
    | none => pure ()
    emit (.again turn)
    mark finish

def whileLoop (test : Expression) (body : Statement) : Build Unit := do
  let labels ← takeLabels
  clearCompletion
  let next ← newLabel
  let finish ← newLabel
  mark next
  expression test
  emit (.jumpUnless finish)
  within (.loop labels finish next) (statement body)
  emit (.again next)
  mark finish

def doLoop (body : Statement) (test : Expression) : Build Unit := do
  let labels ← takeLabels
  clearCompletion
  let turn ← newLabel
  let next ← newLabel
  let finish ← newLabel
  mark turn
  within (.loop labels finish next) (statement body)
  mark next
  expression test
  emit (.jumpUnless finish)
  emit (.again turn)
  mark finish

def loopTarget (target : LoopTarget) : Build Unit := do
  match target with
  | .declaration kind inner => pattern (if kind = .var then .assign else .start) inner
  | .pattern inner => pattern .assign inner

def forIn (scope : Scope) (target : LoopTarget) (source : Expression) (body : Statement) :
    Build Unit := do
  let labels ← takeLabels
  clearCompletion
  let slot ← newIteration
  let next ← newLabel
  let finish ← newLabel
  expression source
  emit (.keys slot)
  mark next
  emit (.nextKey slot finish)
  inScope scope do
    loopTarget target
    within (.loop labels finish next) (statement body)
  emit (.again next)
  mark finish

def forOf (waits : Bool) (scope : Scope) (target : LoopTarget) (source : Expression)
    (body : Statement) : Build Unit := do
  let labels ← takeLabels
  clearCompletion
  let slot ← newIteration
  let next ← newLabel
  let done ← newLabel
  let broken ← newLabel
  let failed ← newLabel
  let finish ← newLabel
  expression source
  emit (.iterate slot waits)
  emit (.guard failed true)
  within (.iteration slot) do
    mark next
    if waits then
      push .undefined
      emit .await
      emit .pop
    emit (.step slot done)
    inScope scope do
      loopTarget target
      within (.loop labels broken next) (statement body)
    emit (.again next)
  mark failed
  emit (.closeQuietly slot)
  emit .rethrow
  mark broken
  emit .unguard
  emit (.close slot)
  emit (.jump finish)
  mark done
  emit .unguard
  mark finish

def guarded (body : Build Unit) (handler : Build Unit) : Build Unit := do
  let failed ← newLabel
  let finish ← newLabel
  emit (.guard failed false)
  within .guarded body
  emit .unguard
  emit (.jump finish)
  mark failed
  handler
  mark finish

def handled (body : Statement) (scope : Scope) (parameter : Option Pattern)
    (handler : List Statement) : Build Unit := do
  clearCompletion
  guarded (statement body) do
    inScope scope do
      match parameter with
      | some inner => pattern .start inner
      | none => emit .pop
      clearCompletion
      handler.forM statement

def finished (body finish : Statement) : Build Unit := do
  clearCompletion
  let how ← newSlot
  let what ← newSlot
  let failed ← newLabel
  let final ← newLabel
  let id := (← get).draft.nextId
  modifyDraft fun d => { d with nextId := id + 1 }
  emit (.guard failed true)
  within (.finished how what final id) (statement body)
  emit .unguard
  push (.integer 0)
  writeSlot how
  emit (.jump final)
  mark failed
  writeSlot what
  push (.integer 1)
  writeSlot how
  mark final
  match (← get).draft.completion with
  | some slot =>
    let kept ← newSlot
    readSlot slot
    writeSlot kept
    statement finish
    readSlot kept
    writeSlot slot
  | none => statement finish
  let whenItWas (number : Int) (part : Build Unit) : Build Unit := do
    let other ← newLabel
    readSlot how
    push (.integer number)
    emit (.binary .same)
    emit (.jumpUnless other)
    part
    mark other
  whenItWas 1 do
    readSlot what
    emit .rethrow
  for ((label, way), index) in (← get).draft.waiting.zipIdx do
    if label = final then
      whenItWas (index + 2) do
        if way = .result then readSlot what
        leave way

def switch (value : Expression) (scope : Scope) (cases : List SwitchCase) : Build Unit := do
  let labels ← takeLabels
  clearCompletion
  let subject ← newSlot
  expression value
  writeSlot subject
  let finish ← newLabel
  inScope scope do
    let marked ← cases.mapM fun found => return (found, ← newLabel)
    for (found, label) in marked do
      match found with
      | .mk (some test) _ =>
        readSlot subject
        expression test
        emit (.binary .same)
        emit (.jumpIf label)
      | .mk none _ => pure ()
    match marked.find? fun (found, _) => match found with
        | .mk none _ => true
        | _ => false with
    | some (_, label) => emit (.jump label)
    | none => emit (.jump finish)
    within (.switch labels finish) do
      for (found, label) in marked do
        match found with
        | .mk _ body =>
          mark label
          body.forM statement
    mark finish

def isLoop : Statement → Bool
  | .loop .. => true
  | .whileLoop .. => true
  | .doLoop .. => true
  | .forIn .. => true
  | .forOf .. => true
  | .switch .. => true
  | .labelled .. => true
  | _ => false

def labelled (label : String) (body : Statement) : Build Unit := do
  if isLoop body then
    modifyDraft fun d => { d with pendingLabels := label :: d.pendingLabels }
    statement body
  else
    let labels ← takeLabels
    let finish ← newLabel
    within (.labelled (label :: labels) finish) (statement body)
    mark finish

/-- Whether an expression adds to a variable. The value of the script so far is then let go first, as
it may be the text that grows. -/
def addsToVariable : Expression → Bool
  | .compound .add (.name _) _ => true
  | .assign (.name _) (.binary .add (.name _) _) => true
  | _ => false

def anyStatement (found : Statement) : Build Unit := do
  match found with
  | .empty => pure ()
  | .expression value =>
    if addsToVariable value then clearCompletion
    expression value
    match (← get).draft.completion with
    | some slot => writeSlot slot
    | none => emit .pop
  | .declaration kind bindings => declaration kind bindings
  | .function _ => pure ()
  | .classOf name definition =>
    expression definition
    writeName .start name
  | .block scope body => inScope scope (body.forM statement)
  | .conditional test yes no =>
    let other ← newLabel
    let finish ← newLabel
    clearCompletion
    expression test
    emit (.jumpUnless other)
    statement yes
    emit (.jump finish)
    mark other
    statement no
    mark finish
  | .loop scope start test update body => loop scope start test update body
  | .whileLoop test body => whileLoop test body
  | .doLoop body test => doLoop body test
  | .forIn scope target source body => forIn scope target source body
  | .forOf waits scope target source body => forOf waits scope target source body
  | .breakTo label =>
    match breakTarget? label (← get).draft.around with
    | some target => leave (.jump target)
    | none => throw "break must be inside loop or switch"
  | .continueTo label =>
    match continueTarget? label (← get).draft.around with
    | some target => leave (.jump target)
    | none => throw "continue must be inside loop"
  | .result value =>
    let draft := (← get).draft
    match value with
    | some value => if draft.info.kind = .initializer then named draft.name value else expression value
    | none => push .undefined
    leave .result
  | .raise value =>
    expression value
    emit .throw
  | .handled body scope parameter handler => handled body scope parameter handler
  | .finished body finish => finished body finish
  | .switch value scope cases => switch value scope cases
  | .labelled label body => labelled label body

end ScriptSandbox.Script.Compile
