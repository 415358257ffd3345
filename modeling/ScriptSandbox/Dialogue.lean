import ScriptSandbox.Http.Message

/-!
What a running script asks of its host, and in which order. A `Dialogue` is the tree of everything a
computation may do: at each question it goes on according to the answer. A statement about all
dialogues is therefore a statement about all scripts, whatever evaluates them.
-/

namespace ScriptSandbox

inductive Question where
  /-- Whether the evaluation has to stop. -/
  | interrupt
  /-- Whether an evaluation is in flight. -/
  | bound
  /-- Whether requests can be made. -/
  | callback
  /-- Bytes for the console. -/
  | write (bytes : Array UInt8)
  | request (request : HttpRequest)
  /-- Milliseconds since 1970. -/
  | time
  /-- Milliseconds since some moment in the past. -/
  | uptime

@[reducible] def Question.Answer : Question → Type
  | .interrupt => Bool
  | .bound => Bool
  | .callback => Bool
  | .write _ => Unit
  | .request _ => Except (List String) HttpResponse
  | .time => Int
  | .uptime => Float

inductive Dialogue (α : Type) where
  | done (result : α)
  | ask (question : Question) (next : question.Answer → Dialogue α)

namespace Dialogue

def bind (first : Dialogue α) (next : α → Dialogue β) : Dialogue β :=
  match first with
  | .done result => next result
  | .ask question rest => .ask question fun answer => (rest answer).bind next

instance : Monad Dialogue where
  pure := .done
  bind := bind

@[simp] theorem done_bind (result : α) (next : α → Dialogue β) :
    (Dialogue.done result).bind next = next result := rfl

@[simp] theorem ask_bind (question : Question) (rest : question.Answer → Dialogue α)
    (next : α → Dialogue β) :
    (ask question rest).bind next = ask question fun answer => (rest answer).bind next := rfl

theorem bind_assoc (first : Dialogue α) (second : α → Dialogue β) (third : β → Dialogue γ) :
    (first.bind second).bind third = first.bind fun result => (second result).bind third := by
  induction first with
  | done result => rfl
  | ask question rest ih => simp [ih]

end Dialogue

end ScriptSandbox
