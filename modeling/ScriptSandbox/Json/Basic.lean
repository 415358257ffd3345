/-!
JSON values. Integers and floating-point numbers are told apart, and an object is a list of entries in
writing order, so that a writer can keep every entry. `Json.object` made by the reader has its keys
sorted and unique; see `insertEntry`.
-/

namespace ScriptSandbox

inductive Json where
  | null
  | boolean (value : Bool)
  | integer (value : Int)
  | float (value : Float)
  | text (value : String)
  | array (items : List Json)
  | object (entries : List (String × Json))
  deriving Inhabited

namespace Json

/-- Puts an entry at its place by the order of keys; an entry of the same key is replaced. -/
def insertEntry (key : String) (value : α) : List (String × α) → List (String × α)
  | [] => [(key, value)]
  | (other, kept) :: rest =>
    if key < other then (key, value) :: (other, kept) :: rest
    else if key = other then (key, value) :: rest
    else (other, kept) :: insertEntry key value rest

/-- Entries sorted by key, where the last one of each key wins. -/
def sortEntries (entries : List (String × α)) : List (String × α) :=
  entries.foldl (fun sorted entry => insertEntry entry.1 entry.2 sorted) []

end Json

end ScriptSandbox
