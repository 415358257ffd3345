import ScriptSandbox.Script.Code

/-!
Writing the code of functions: instructions with labels, the variables that a place in the script can
see, and what has to happen when control leaves a statement early.
-/

namespace ScriptSandbox.Script.Compile

structure Variable where
  place : Place
  constant : Bool
  /-- Whether it may be used before its declaration ran. -/
  checked : Bool
  /-- Whether an assignment to it is ignored where it is not refused. -/
  lenient : Bool
  deriving Inhabited

inductive Leave where
  | jump (label : Nat)
  | result
  deriving DecidableEq

inductive Surrounding where
  | loop (labels : List String) (breakLabel continueLabel : Nat)
  | switch (labels : List String) (breakLabel : Nat)
  | labelled (labels : List String) (breakLabel : Nat)
  | iteration (slot : Nat)
  | guarded
  /-- A statement with a final part: slots for how and with what control came there, its label. -/
  | finished (how what : Nat) (label : Nat) (id : Nat)

structure Draft where
  info : FunctionInfo
  name : String
  instructions : Array Instruction
  labels : Array Nat
  slots : Nat
  cells : Nat
  children : Array Code
  captures : Array Place
  sites : Array TemplateSite
  scopes : Array EvaluationScope
  /-- Blocks around the place, the innermost first. -/
  blocks : List (List (String × Variable))
  around : List Surrounding
  /-- Ways to leave that wait for the final part of a statement. -/
  waiting : List (Nat × Leave)
  nextId : Nat
  /-- The slot for the value of the script, if it is wanted. -/
  completion : Option Nat
  /-- Where a chain of accesses ends. -/
  chainEnd : Nat
  /-- Labels of the statement at hand. -/
  pendingLabels : List String
  /-- Where `this` of a derived constructor lives. -/
  derivedThis : Option Place
  /-- Whether the code is that of a class field. -/
  field : Bool
  deriving Inhabited

def Draft.create (info : FunctionInfo) (name : String) : Draft :=
  { info, name, instructions := #[], labels := #[], slots := 0, cells := 0, children := #[]
    captures := #[], sites := #[], scopes := #[], blocks := [], around := [], waiting := []
    nextId := 0, completion := none, chainEnd := 0, pendingLabels := [], derivedThis := none
    field := false }

def Draft.isShared (draft : Draft) (name : String) : Bool :=
  draft.info.evaluates || draft.info.inner.contains name

structure State where
  functions : Array Function
  draft : Draft
  /-- The functions around the one at hand, the innermost first. -/
  outer : List Draft
  deriving Inhabited

abbrev Build := StateT State (Except String)

def modifyDraft (change : Draft → Draft) : Build Unit :=
  modify fun s => { s with draft := change s.draft }

def emit (instruction : Instruction) : Build Unit :=
  modifyDraft fun d => { d with instructions := d.instructions.push instruction }

def push (value : Value) : Build Unit := emit (.push value)

def newLabel : Build Nat := do
  let label := (← get).draft.labels.size
  modifyDraft fun d => { d with labels := d.labels.push 0 }
  return label

def mark (label : Nat) : Build Unit :=
  modifyDraft fun d => { d with labels := d.labels.setIfInBounds label d.instructions.size }

def newSlot : Build Nat := do
  let slot := (← get).draft.slots
  modifyDraft fun d => { d with slots := slot + 1 }
  return slot

def newIteration : Build Nat := do
  let slot := (← get).draft.slots
  modifyDraft fun d => { d with slots := slot + 3 }
  return slot

def newCell : Build Nat := do
  let cell := (← get).draft.cells
  modifyDraft fun d => { d with cells := cell + 1 }
  return cell

def readSlot (slot : Nat) : Build Unit := emit (.read (.slot slot))

def writeSlot (slot : Nat) : Build Unit := emit (.write (.slot slot))

/-! ### Variables -/

def findIn : List (List (String × Variable)) → String → Option Variable
  | [], _ => none
  | block :: rest, name =>
    match block.lookup name with
    | some found => some found
    | none => findIn rest name

def Draft.capture (draft : Draft) (place : Place) : Nat × Draft :=
  match draft.captures.findIdx? (· == place) with
  | some index => (index, draft)
  | none => (draft.captures.size, { draft with captures := draft.captures.push place })

/-- Looks a variable up from a function outwards, and shares it with all functions on the way. -/
def resolveIn : List Draft → String → Option Variable × List Draft
  | [], _ => (none, [])
  | draft :: outer, name =>
    match findIn draft.blocks name with
    | some found => (some found, draft :: outer)
    | none =>
      match resolveIn outer name with
      | (none, outer) => (none, draft :: outer)
      | (some found, outer) =>
        let (index, draft) := draft.capture found.place
        (some { found with place := .captured index }, draft :: outer)

def resolve (name : String) : Build (Option Variable) := do
  let s ← get
  match resolveIn (s.draft :: s.outer) name with
  | (found, draft :: outer) =>
    set { s with draft, outer }
    return found
  | (found, []) => return found

def declare (name : String) (shared constant checked lenient : Bool) : Build Variable := do
  let place ← if shared then do
      let cell ← newCell
      emit (.fresh cell)
      pure (Place.cell cell)
    else do
      let slot ← newSlot
      if checked then
        push .absent
        writeSlot slot
      pure (Place.slot slot)
  let variable_ : Variable := { place, constant, checked, lenient }
  modifyDraft fun d => { d with blocks := match d.blocks with
    | block :: rest => ((name, variable_) :: block) :: rest
    | [] => [[(name, variable_)]] }
  return variable_

def declarePlain (name : String) : Build Variable := do
  let variable_ ← declare name ((← get).draft.isShared name) false false false
  match variable_.place with
  | .cell _ =>
    push .undefined
    emit (.write variable_.place)
  | _ => pure ()
  return variable_

def inBlock (part : Build α) : Build α := do
  modifyDraft fun d => { d with blocks := [] :: d.blocks }
  let result ← part
  modifyDraft fun d => { d with blocks := d.blocks.tail }
  return result

def readName (name : String) : Build Unit := do
  match ← resolve name with
  | some found =>
    if found.checked then emit (.readChecked found.place name) else emit (.read found.place)
  | none => if name == "undefined" then push .undefined else emit (.readGlobal name (.ofString name))

inductive Writing where
  | assign
  /-- The first value, by its declaration. -/
  | start

def writeName (how : Writing) (name : String) : Build Unit := do
  match ← resolve name, how with
  | some found, .start => emit (.write found.place)
  | some found, .assign =>
    if found.lenient && !(← get).draft.info.strict then emit .pop
    else
      if found.checked && found.constant then
        emit (.readChecked found.place name)
        emit .pop
      if found.constant then emit (.complain (.readOnly name))
      else if found.checked then emit (.writeChecked found.place name)
      else emit (.write found.place)
  | none, .start => emit (.startGlobal name)
  | none, .assign => emit (.writeGlobal name (.ofString name))

/-! ### Leaving statements -/

def within (surrounding : Surrounding) (part : Build α) : Build α := do
  modifyDraft fun d => { d with around := surrounding :: d.around }
  let result ← part
  modifyDraft fun d => { d with around := d.around.tail }
  return result

def leaveNow (way : Leave) : Build Unit := do
  match way with
  | .jump label => emit (.jump label)
  | .result =>
    match (← get).draft.derivedThis with
    | some place => emit (.derivedResult place)
    | none => emit .result

def leaveFrom (way : Leave) : List Surrounding → Build Unit
  | [] => leaveNow way
  | surrounding :: rest => do
    let passes (labels : List Nat) : Bool := match way with
      | .jump label => labels.contains label
      | .result => false
    match surrounding with
    | .loop _ a b => if passes [a, b] then leaveNow way else leaveFrom way rest
    | .switch _ a => if passes [a] then leaveNow way else leaveFrom way rest
    | .labelled _ a => if passes [a] then leaveNow way else leaveFrom way rest
    | .iteration slot =>
      emit .unguard
      emit (.close slot)
      leaveFrom way rest
    | .guarded =>
      emit .unguard
      leaveFrom way rest
    | .finished how what label _ =>
      emit .unguard
      if way = .result then writeSlot what
      let d := (← get).draft
      let number ← match d.waiting.findIdx? (fun w => w == (label, way)) with
        | some index => pure index
        | none => do
          modifyDraft fun d => { d with waiting := d.waiting ++ [(label, way)] }
          pure d.waiting.length
      push (.integer (number + 2))
      writeSlot how
      emit (.jump label)

def leave (way : Leave) : Build Unit := do
  leaveFrom way (← get).draft.around

def breakTarget? (label : Option String) : List Surrounding → Option Nat
  | [] => none
  | .loop labels target _ :: rest =>
    match label with
    | none => some target
    | some name => if labels.contains name then some target else breakTarget? label rest
  | .switch labels target :: rest =>
    match label with
    | none => some target
    | some name => if labels.contains name then some target else breakTarget? label rest
  | .labelled labels target :: rest =>
    match label with
    | none => breakTarget? label rest
    | some name => if labels.contains name then some target else breakTarget? label rest
  | _ :: rest => breakTarget? label rest

def continueTarget? (label : Option String) : List Surrounding → Option Nat
  | [] => none
  | .loop labels _ target :: rest =>
    match label with
    | none => some target
    | some name => if labels.contains name then some target else continueTarget? label rest
  | _ :: rest => continueTarget? label rest

def takeLabels : Build (List String) := do
  let labels := (← get).draft.pendingLabels
  modifyDraft fun d => { d with pendingLabels := [] }
  return labels

/-! ### Functions -/

def place (labels : Array Nat) : Instruction → Instruction
  | .jump target => .jump (labels.getD target 0)
  | .jumpIf target => .jumpIf (labels.getD target 0)
  | .jumpUnless target => .jumpUnless (labels.getD target 0)
  | .jumpPresent target => .jumpPresent (labels.getD target 0)
  | .jumpDefined target => .jumpDefined (labels.getD target 0)
  | .jumpAbsent extra target => .jumpAbsent extra (labels.getD target 0)
  | .again target => .again (labels.getD target 0)
  | .step slot target => .step slot (labels.getD target 0)
  | .nextKey slot target => .nextKey slot (labels.getD target 0)
  | .guard target always => .guard (labels.getD target 0) always
  | other => other

def Draft.code (draft : Draft) (isClass : Bool) (source : Units) : Code :=
  { name := draft.name, kind := draft.info.kind, generator := draft.info.generator
    async := draft.info.async, strict := draft.info.strict, arity := draft.info.arity, source
    slots := draft.slots, cells := draft.cells
    instructions := draft.instructions.map (place draft.labels)
    children := draft.children, captures := draft.captures, sites := draft.sites
    scopes := draft.scopes, isClass }

def child (info : FunctionInfo) (name : String) (isClass : Bool) (source : Units)
    (body : Build Unit) : Build Nat := do
  modify fun s => { s with draft := Draft.create info name, outer := s.draft :: s.outer }
  body
  let s ← get
  match s.outer with
  | parent :: outer =>
    let code := s.draft.code isClass source
    set { s with draft := { parent with children := parent.children.push code }, outer }
    return parent.children.size
  | [] => return 0

/-- All variables that a place can see, the innermost of each name. -/
def visible : Build (List Visible) := do
  let s ← get
  let names := ((s.draft :: s.outer).flatMap fun draft => draft.blocks.flatMap (·.map (·.1))).eraseDups
  names.filterMapM fun name => do
    return (← resolve name).map fun found =>
      { name, place := found.place, constant := found.constant, checked := found.checked }

end ScriptSandbox.Script.Compile
