import ScriptSandbox.Script.Machine

/-!
How much memory a script holds on to: the sizes of all objects, cells and long texts that can be
reached from the realm and from the calls under way. Sizes are those of a plain implementation.
-/

namespace ScriptSandbox.Script.Memory

structure Count where
  total : Nat
  seenObjects : Array Bool
  seenCells : Array Bool
  texts : Std.HashMap Units Unit
  objects : List Ref
  cells : List Nat

def longText : Nat := 64

namespace Count

def value (count : Count) (value : Value) : Count :=
  match value with
  | .text text =>
    if text.size < longText then { count with total := count.total + 24 }
    else if count.texts.contains text then count
    else { count with total := count.total + textSize text, texts := count.texts.insert text () }
  | .bigint n => { count with total := count.total + 24 + n.natAbs.log2 / 8 }
  | .object ref =>
    if count.seenObjects.getD ref true then count
    else { count with
      seenObjects := count.seenObjects.setIfInBounds ref true, objects := ref :: count.objects }
  | _ => count

def values (count : Count) (found : Array Value) : Count := found.foldl Count.value count

def cell (count : Count) (id : Nat) : Count :=
  if count.seenCells.getD id true then count
  else { count with
    seenCells := count.seenCells.setIfInBounds id true, cells := id :: count.cells
    total := count.total + 24 }

def ref (count : Count) (ref : Ref) : Count := count.value (.object ref)

def option (count : Count) : Option Ref → Count
  | some found => count.ref found
  | none => count

def frame (count : Count) (frame : Frame) : Count :=
  let count := ((count.values frame.stack).values frame.slots).values frame.arguments
  let count := frame.captured.foldl Count.cell (frame.cells.foldl Count.cell count)
  (((count.value frame.this).value frame.self).value frame.newTarget).option frame.home

def properties (count : Count) (found : Properties) : Count :=
  found.entries.foldl (fun count entry =>
    match entry with
    | none => count
    | some (key, property) =>
      let count := { count with total := count.total + 24 + key.toUnits.size }
      match property.content with
      | .value value => count.value value
      | .accessor getter setter => (count.value getter).value setter) count

def kind (count : Count) (found : Kind) : Count :=
  match found with
  | .array elements _ _ => { count with total := count.total + 16 * elements.size }.values elements
  | .closure closure =>
    let count := closure.captured.foldl Count.cell count
    (((count.value closure.this).value closure.self).value closure.newTarget).option closure.fields
      |>.option closure.home
  | .native _ _ data => count.values data
  | .bound target this arguments => ((count.ref target).value this).values arguments
  | .proxy target handler _ _ => (count.option target).option handler
  | .boxed value => count.value value
  | .collection _ table =>
    table.entries.foldl (fun count entry =>
      match entry with
      | some (key, value) => ({ count with total := count.total + 64 }.value key).value value
      | none => count) count
  | .weakRef target => count.value target
  | .generator (.suspended frame _) => count.frame frame
  | .promise (.fulfilled value) => count.value value
  | .promise (.rejected value) => count.value value
  | .iterator (.array source _ _) => count.ref source
  | .iterator (.collection source _ _) => count.ref source
  | .iterator (.text source _) => count.value (.text source)
  | .buffer bytes => { count with total := count.total + bytes.size }
  | .view _ buffer _ _ => count.ref buffer
  | _ => count

def finish (machine : Machine) : Nat → Count → Count
  | 0, count => count
  | steps + 1, count =>
    match count.objects with
    | ref :: objects =>
      let object := machine.heap.getD ref default
      let count := { count with objects, total := count.total + objectSize }
      finish machine steps (((count.kind object.kind).properties object.properties).option object.parent)
    | [] =>
      match count.cells with
      | id :: cells =>
        finish machine steps ({ count with cells }.value (machine.cells.getD id .undefined))
      | [] => count

end Count

/-- The memory that is reached from the realm, from the calls at hand and from those that wait. -/
def reached (machine : Machine) (frames : List Frame) : Nat :=
  let start : Count :=
    { total := 0, seenObjects := Array.replicate machine.heap.size false
      seenCells := Array.replicate machine.cells.size false, texts := ∅, objects := [], cells := [] }
  let count := (List.range Intrinsic.count).foldl Count.ref start
  let count := machine.globals.fold (fun count _ found => count.cell found.cell) count
  let count := frames.foldl Count.frame count
  let count := machine.waiting.foldl (fun count frames => frames.foldl Count.frame count) count
  (count.finish machine (machine.heap.size + machine.cells.size + 1)).total

def interval (limit : Nat) : Nat := max 4096 (limit / 8)

def isDue (machine : Machine) : Bool :=
  match machine.limit with
  | some limit => interval limit < machine.charged
  | none => false

def measure (machine : Machine) (frames : List Frame) : Machine × Bool :=
  match machine.limit with
  | none => (machine, false)
  | some limit =>
    let used := reached machine frames
    ({ machine with charged := 0 }, machine.baseline + limit < used)

end ScriptSandbox.Script.Memory
