import ScriptSandbox.Decimal.Layout
import ScriptSandbox.Text.Quoted

/-!
What is wrong with a well-formed document that does not have the expected shape: something of another
kind stands where a value is expected, or a number lies outside its range.
-/

namespace ScriptSandbox

inductive Found where
  | null
  | boolean (value : Bool)
  | integer (value : Int)
  | float (value : Float)
  | text (value : String)
  | sequence
  | map

inductive Mismatch where
  | wrongType (found : Found) (expected : String)
  | outOfRange (found : Found) (expected : String)
  /-- A complaint that is its own text. -/
  | other (complaint : String)

/-- Floating-point numbers in complaints have a point and no exponent. -/
def Found.floatLayout : Decimal.Layout :=
  { least := -400, bound := 400, wholeSuffix := ".0", positiveSign := "", signedZero := true
    nan := "NaN", infinity := "inf" }

def Found.describe : Found → String
  | .null => "null"
  | .boolean value => s!"boolean `{value}`"
  | .integer value => s!"integer `{value}`"
  | .float value => "floating point `" ++ floatLayout.write value ++ "`"
  | .text value => "string " ++ Text.quoted value
  | .sequence => "sequence"
  | .map => "map"

def Mismatch.message : Mismatch → String
  | .wrongType found expected => "invalid type: " ++ found.describe ++ ", expected " ++ expected
  | .outOfRange found expected => "invalid value: " ++ found.describe ++ ", expected " ++ expected
  | .other complaint => complaint

theorem Mismatch.bind_eq_ok (first : Except Mismatch β) (next : β → Except Mismatch γ) (after : γ) :
    first >>= next = .ok after ↔ ∃ content, first = .ok content ∧ next content = .ok after := by
  cases first with
  | error complaint => simp [bind, Except.bind]
  | ok content => simp [bind, Except.bind]

end ScriptSandbox
