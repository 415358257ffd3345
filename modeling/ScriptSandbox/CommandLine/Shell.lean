import ScriptSandbox.Failure

/-!
What a command asks of its surroundings: files, an input, and two outputs. Commands are written for any
`Shell`. A `Terminal` is one in memory, so that what a command does can be stated and computed.
-/

namespace ScriptSandbox

structure Shell (m : Type → Type) where
  readFile : (path : String) → m (Except FileFault (Array UInt8))
  /-- Reads the whole input. -/
  readInput : m (Array UInt8)
  /-- Whether something stands at a path. -/
  isPresent : (path : String) → m Bool
  makeDirectories : (path : String) → m (Except FileFault Unit)
  writeFile : (path content : String) → m (Except FileFault Unit)
  print : (text : String) → m Unit
  report : (text : String) → m Unit

/-! ### Files in memory -/

inductive FileTree where
  | file (content : Array UInt8)
  | directory (entries : List (String × FileTree))

namespace FileTree

def empty : FileTree := .directory []

def replace (name : String) (tree : FileTree) :
    List (String × FileTree) → List (String × FileTree)
  | [] => [(name, tree)]
  | (other, found) :: rest =>
    if other = name then (name, tree) :: rest else (other, found) :: replace name tree rest

/-- What stands at the end of a path. The directories on the way are kept, innermost first, because the
path may lead back; it cannot lead out of the whole tree. -/
def walk : (above : List FileTree) → FileTree → List String → Except FileFault FileTree
  | _, tree, [] => .ok tree
  | _, .file _, _ :: _ => .error .notDirectory
  | above, .directory entries, name :: rest =>
    if name = "" ∨ name = "." then walk above (.directory entries) rest
    else if name = ".." then
      match above with
      | parent :: above => walk above parent rest
      | [] => .error .notFound
    else match entries.lookup name with
      | some child => walk (.directory entries :: above) child rest
      | none => .error .notFound

def write (content : Array UInt8) : FileTree → List String → Except FileFault FileTree
  | .file _, [] => .ok (.file content)
  | .directory _, [] => .error .isDirectory
  | .file _, _ :: _ => .error .notDirectory
  | .directory entries, name :: rest => do
    match entries.lookup name with
    | some child => return .directory (replace name (← write content child rest) entries)
    | none =>
      if rest.isEmpty then return .directory (replace name (.file content) entries)
      else throw .notFound

def extend : FileTree → List String → Except FileFault FileTree
  | .file _, [] => .error .alreadyExists
  | .directory entries, [] => .ok (.directory entries)
  | .file _, _ :: _ => .error .notDirectory
  | .directory entries, name :: rest => do
    let child ← extend ((entries.lookup name).getD empty) rest
    return .directory (replace name child entries)

/-- A tree with a file and the directories on the way to it. Files that stand in the way win. -/
def withFile (tree : FileTree) (names : List String) (content : Array UInt8) : FileTree :=
  let result := do (← tree.extend names.dropLast).write content names
  match result with
  | .ok tree => tree
  | .error _ => tree

mutual

def files (path : String) : FileTree → List (String × Array UInt8)
  | .file content => [(path, content)]
  | .directory entries => filesOf path entries

def filesOf (path : String) : List (String × FileTree) → List (String × Array UInt8)
  | [] => []
  | (name, tree) :: rest =>
    files (if path.isEmpty then name else path ++ "/" ++ name) tree ++ filesOf path rest

end

end FileTree

/-! ### Terminals -/

structure Terminal where
  /-- The path of the directory that holds all files, and that paths start from. -/
  root : String
  tree : FileTree
  input : Array UInt8
  output : String
  errors : String

namespace Terminal

def names? (terminal : Terminal) (path : String) : Option (List String) :=
  if path = terminal.root then some []
  else if path.startsWith (terminal.root ++ "/") then
    some ((path.drop (terminal.root.length + 1)).toString.splitOn "/")
  else if path.startsWith "/" then none
  else some (path.splitOn "/")

def look (terminal : Terminal) (path : String) : Except FileFault FileTree :=
  match terminal.names? path with
  | some names => terminal.tree.walk [] names
  | none => .error .notFound

def readFile (terminal : Terminal) (path : String) : Except FileFault (Array UInt8) :=
  match terminal.look path with
  | .ok (.file content) => .ok content
  | .ok (.directory _) => .error .isDirectory
  | .error fault => .error fault

def change (path : String) (f : FileTree → List String → Except FileFault FileTree) :
    StateM Terminal (Except FileFault Unit) := do
  let terminal ← get
  match terminal.names? path with
  | none => return .error .notFound
  | some names =>
    match f terminal.tree names with
    | .ok tree =>
      set { terminal with tree }
      return .ok ()
    | .error fault => return .error fault

def shell : Shell (StateM Terminal) where
  readFile path := do return (← get).readFile path
  readInput := modifyGet fun terminal => (terminal.input, { terminal with input := #[] })
  isPresent path := do return ((← get).look path).isOk
  makeDirectories path := change path FileTree.extend
  writeFile path content := change path (FileTree.write content.toUTF8.data)
  print text := modify fun terminal => { terminal with output := terminal.output ++ text }
  report text := modify fun terminal => { terminal with errors := terminal.errors ++ text }

end Terminal

end ScriptSandbox
