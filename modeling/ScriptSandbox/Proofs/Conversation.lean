import ScriptSandbox.Host
import ScriptSandbox.Script.Machine

/-!
What holds of every conversation between a computation and its host, whatever the computation is. The
host may ask it to stop; `Host.interruption` finds the first answer that does. A governed host remembers
such an answer, so its latch tells whether there was one. Nothing that is written or requested is ever
taken back.
-/

namespace ScriptSandbox

/-- Whether an answer asks the computation to stop. -/
def Question.stops : (question : Question) → question.Answer → Bool
  | .interrupt, answer => answer
  | _, _ => false

namespace Host

theorem converse_bind (clock : Clock) (first : Dialogue α) (next : α → Dialogue β) (host : Host) :
    converse clock (first.bind next) host =
      converse clock (next (converse clock first host).1) (converse clock first host).2 := by
  induction first generalizing host with
  | done result => rfl
  | ask question rest ih => exact ih _ _

/-- What is left of a computation after the first answer that asks it to stop, and the host by then. -/
def interruption (clock : Clock) : Dialogue α → Host → Option (Dialogue α × Host)
  | .done _, _ => none
  | .ask question next, host =>
    let (answer, after) := host.reply clock question
    if question.stops answer then some (next answer, after) else interruption clock (next answer) after

theorem interruption_ask (clock : Clock) (question : Question) (next : question.Answer → Dialogue α)
    (host : Host) : interruption clock (.ask question next) host =
      if question.stops (host.reply clock question).1 then
        some (next (host.reply clock question).1, (host.reply clock question).2)
      else interruption clock (next (host.reply clock question).1) (host.reply clock question).2 := rfl

theorem interruption_of_stops (clock : Clock) (question : Question)
    (next : question.Answer → Dialogue α) (host : Host)
    (stops : question.stops (host.reply clock question).1 = true) :
    interruption clock (.ask question next) host =
      some (next (host.reply clock question).1, (host.reply clock question).2) := by
  rw [interruption_ask, if_pos stops]

theorem interruption_of_goes (clock : Clock) (question : Question)
    (next : question.Answer → Dialogue α) (host : Host)
    (goes : question.stops (host.reply clock question).1 = false) :
    interruption clock (.ask question next) host =
      interruption clock (next (host.reply clock question).1) (host.reply clock question).2 := by
  rw [interruption_ask, goes, if_neg Bool.false_ne_true]

theorem interruption_ask_cases (clock : Clock) (question : Question)
    (next : question.Answer → Dialogue α) (rest : Dialogue α) (host after : Host)
    (found : interruption clock (.ask question next) host = some (rest, after)) :
    (question.stops (host.reply clock question).1 = true ∧
      rest = next (host.reply clock question).1 ∧ after = (host.reply clock question).2) ∨
    interruption clock (next (host.reply clock question).1) (host.reply clock question).2 =
      some (rest, after) := by
  rw [interruption_ask] at found
  split at found
  · next stops =>
    obtain ⟨rfl, rfl⟩ := Prod.mk.inj (Option.some.inj found)
    exact .inl ⟨stops, rfl, rfl⟩
  · exact .inr found

/-- The first stop of two computations in a row is the first stop of the first one, or else of the
second. -/
theorem interruption_bind (clock : Clock) (first : Dialogue α) (next : α → Dialogue β) (host : Host) :
    interruption clock (first.bind next) host =
      match interruption clock first host with
      | some (rest, after) => some (rest.bind next, after)
      | none =>
        interruption clock (next (converse clock first host).1) (converse clock first host).2 := by
  induction first generalizing host with
  | done result => rfl
  | ask question rest ih =>
    simp only [Dialogue.ask_bind, interruption_ask]
    by_cases stops : question.stops (host.reply clock question).1 = true
    · simp only [stops, if_true]
    · simp only [stops, Bool.false_eq_true, if_false]
      exact ih _ _

theorem interruption_bind_of_some (clock : Clock) (first : Dialogue α) (next : α → Dialogue β)
    (host after : Host) (rest : Dialogue α) (found : interruption clock first host = some (rest, after)) :
    interruption clock (first.bind next) host = some (rest.bind next, after) := by
  rw [interruption_bind, found]

theorem interruption_bind_of_none (clock : Clock) (first : Dialogue α) (next : α → Dialogue β)
    (host : Host) (absent : interruption clock first host = none) :
    interruption clock (first.bind next) host =
      interruption clock (next (converse clock first host).1) (converse clock first host).2 := by
  rw [interruption_bind, absent]

theorem converse_of_interruption (clock : Clock) (dialogue rest : Dialogue α) (host after : Host)
    (found : interruption clock dialogue host = some (rest, after)) :
    converse clock dialogue host = converse clock rest after := by
  induction dialogue generalizing host with
  | done result => simp [interruption] at found
  | ask question next ih =>
    obtain ⟨-, rfl, rfl⟩ | found := interruption_ask_cases clock question next rest host after found
    · rfl
    · exact ih _ _ found

def Passes (clock : Clock) (dialogue : Dialogue α) (host : Host) (result : α) (after : Host) : Prop :=
  interruption clock dialogue host = none ∧ converse clock dialogue host = (result, after)

/-! ### The latch -/

@[simp] theorem poll_bound (host : Host) (clock : Clock) : (host.poll clock).2.bound = host.bound := by
  unfold poll
  split <;> rfl

theorem reply_bound (host : Host) (clock : Clock) (question : Question) :
    (host.reply clock question).2.bound = host.bound := by
  cases question with
  | interrupt => exact host.poll_bound clock
  | request request => unfold reply; split <;> rfl
  | _ => rfl

theorem reply_governed (host : Host) (clock : Clock) (question : Question) :
    (host.reply clock question).2.governed = host.governed := by
  cases question with
  | interrupt => unfold reply poll; split <;> rfl
  | request request => unfold reply; split <;> rfl
  | _ => rfl

theorem reply_timedOut (host : Host) (clock : Clock) (question : Question)
    (governed : host.governed = true) :
    (host.reply clock question).2.governor.timedOut =
      (host.governor.timedOut || question.stops (host.reply clock question).1) := by
  cases question with
  | interrupt =>
    simp only [reply, poll, governed, if_true, Question.stops, Governor.poll]
    split
    · next latched => simp [latched]
    · split
      · simp_all
      · split <;> simp_all
  | request request =>
    simp only [Question.stops, Bool.or_false]
    unfold reply
    split <;> rfl
  | _ => simp [reply, Question.stops, look]

theorem converse_bound (clock : Clock) (dialogue : Dialogue α) (host : Host) :
    (converse clock dialogue host).2.bound = host.bound := by
  induction dialogue generalizing host with
  | done result => rfl
  | ask question next ih => exact (ih _ _).trans (host.reply_bound clock question)

theorem converse_governed (clock : Clock) (dialogue : Dialogue α) (host : Host) :
    (converse clock dialogue host).2.governed = host.governed := by
  induction dialogue generalizing host with
  | done result => rfl
  | ask question next ih => exact (ih _ _).trans (host.reply_governed clock question)

theorem interruption_bound (clock : Clock) (dialogue rest : Dialogue α) (host after : Host)
    (found : interruption clock dialogue host = some (rest, after)) : after.bound = host.bound := by
  induction dialogue generalizing host with
  | done result => simp [interruption] at found
  | ask question next ih =>
    obtain ⟨-, -, rfl⟩ | found := interruption_ask_cases clock question next rest host after found
    · exact host.reply_bound clock question
    · exact (ih _ _ found).trans (host.reply_bound clock question)

/-- After a governed conversation the latch tells whether any answer asked to stop. -/
theorem converse_timedOut (clock : Clock) (dialogue : Dialogue α) (host : Host)
    (governed : host.governed = true) :
    (converse clock dialogue host).2.governor.timedOut =
      (host.governor.timedOut || (interruption clock dialogue host).isSome) := by
  induction dialogue generalizing host with
  | done result => simp [converse, interruption]
  | ask question next ih =>
    have still : (host.reply clock question).2.governed = true :=
      (host.reply_governed clock question).trans governed
    have later := ih (host.reply clock question).1 (host.reply clock question).2 still
    have now := host.reply_timedOut clock question governed
    rw [interruption_ask]
    show (converse clock (next (host.reply clock question).1) (host.reply clock question).2).2.governor.timedOut = _
    rw [later, now]
    by_cases stops : question.stops (host.reply clock question).1 = true
    · simp [stops]
    · simp [stops]

end Host

end ScriptSandbox
