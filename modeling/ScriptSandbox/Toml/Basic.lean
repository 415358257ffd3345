/-!
TOML values. A table lists its entries in the order of the document. Dates and times are kept only as
such, for nothing in a configuration is one.
-/

namespace ScriptSandbox

inductive Toml where
  | integer (value : Int)
  | float (value : Float)
  | boolean (value : Bool)
  | text (value : String)
  | datetime
  | array (items : List Toml)
  | table (entries : List (String × Toml))
  deriving Inhabited

end ScriptSandbox
