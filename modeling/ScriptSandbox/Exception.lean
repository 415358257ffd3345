import ScriptSandbox.Marshal

/-!
What a script threw, as the host sees it. Every value can be thrown, and looking at it runs code of the
script again; whatever goes wrong then, there is an answer.
-/

namespace ScriptSandbox

open Script Script.Execution

inductive ExceptionKind where
  | syntaxError
  | script
  deriving Repr, DecidableEq

def ExceptionKind.name : ExceptionKind → String
  | .syntaxError => "Syntax"
  | .script => "Script"

structure ScriptException where
  kind : ExceptionKind
  message : String
  stack : Option String
  deriving Repr, DecidableEq

namespace ScriptException

def isSyntax (exception : ScriptException) : Bool := exception.kind = .syntaxError

def syntaxName : String := "SyntaxError"

def unprintable : String := "unprintable exception"

/-- The kind that a name decides, or without one the start of the message. -/
def kindOf (name : Option String) (message : String) : ExceptionKind :=
  let isSyntax := match name with
    | some name => name == syntaxName
    | none => message.startsWith syntaxName
  if isSyntax then .syntaxError else .script

variable [Surface]

/-- A property of an object as text; what is absent, `null` or unreadable counts as nothing. -/
def textProperty (ref : Ref) (key : Key) : Execution (Option String) := do
  let found ← quietly do
    let value ← Surface.get (.object ref) key
    if value.isNullish then return none else some <$> coercedText value
  return found.join

def classify (thrown : Value) : Execution ScriptException := do
  let message := (← quietly (Marshal.scriptText thrown)).getD unprintable
  match thrown with
  | .object ref =>
    let name ← textProperty ref nameKey
    match kindOf name message with
    | .syntaxError => return { kind := .syntaxError, message, stack := none }
    | .script => return { kind := .script, message, stack := ← textProperty ref stackKey }
  | _ => return { kind := kindOf none message, message, stack := none }

end ScriptException

end ScriptSandbox
