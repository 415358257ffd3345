import Mathlib.Data.List.Induction
import ScriptSandbox.Governor

/-!
One deadline for each period. A governor keeps the start of its period as an offset of 64 bits and a latch,
and looks at the latch first. As long as the clock does not go back, its answers are nevertheless those of a
rule about readings alone: a poll asks for a stop if more time than the budget has passed since the period
began. Arming it again gives a governor that nothing tells from a new one.
-/

namespace ScriptSandbox.Governor

inductive Call where
  | arm (now : Nat)
  | poll (now : Nat)
  /-- Whether the budget was found spent. -/
  | look
  deriving Repr, DecidableEq

def Call.reading? : Call → Option Nat
  | .arm now => some now
  | .poll now => some now
  | .look => none

def Call.isArm : Call → Bool
  | .arm _ => true
  | _ => false

def Call.startAfter (start : Nat) : Call → Nat
  | .arm now => now
  | _ => start

def answer (governor : Governor) : Call → Option Bool
  | .arm _ => none
  | .poll now => some (governor.poll now).1
  | .look => some governor.timedOut

def called (governor : Governor) : Call → Governor
  | .arm now => governor.arm now
  | .poll now => (governor.poll now).2
  | .look => governor

def answers (governor : Governor) : List Call → List (Option Bool)
  | [] => []
  | call :: rest => governor.answer call :: (governor.called call).answers rest

def reached (timeoutMs : Int) (made : Nat) (calls : List Call) : Governor :=
  calls.foldl called (create timeoutMs made)

def periodStart (made : Nat) (calls : List Call) : Nat := calls.foldl Call.startAfter made

def readings (calls : List Call) : List Nat := calls.filterMap Call.reading?

/-- The clock does not go back, and it reads less than `2^64` nanoseconds after the governor was made. -/
def Timed (made : Nat) (calls : List Call) : Prop :=
  (made :: readings calls).Pairwise (· ≤ ·) ∧ ∀ reading ∈ readings calls, reading < made + 0x10000000000000000

instance (made : Nat) (calls : List Call) : Decidable (Timed made calls) := inferInstanceAs (Decidable (_ ∧ _))

/-- There is a budget, and strictly more time has passed. -/
def Overdue (timeoutMs : Int) (start now : Nat) : Prop :=
  0 < timeoutMs ∧ (start : Int) + timeoutMs * 1000000 < now

instance (timeoutMs : Int) (start now : Nat) : Decidable (Overdue timeoutMs start now) :=
  inferInstanceAs (Decidable (_ ∧ _))

theorem reached_snoc (timeoutMs : Int) (made : Nat) (calls : List Call) (call : Call) :
    reached timeoutMs made (calls ++ [call]) = (reached timeoutMs made calls).called call := by
  rw [reached, reached, List.foldl_append, List.foldl_cons, List.foldl_nil]

theorem periodStart_snoc (made : Nat) (calls : List Call) (call : Call) :
    periodStart made (calls ++ [call]) = call.startAfter (periodStart made calls) := by
  rw [periodStart, periodStart, List.foldl_append, List.foldl_cons, List.foldl_nil]

theorem readings_append (calls more : List Call) : readings (calls ++ more) = readings calls ++ readings more :=
  List.filterMap_append

theorem Timed.front {made : Nat} {calls more : List Call} (timed : Timed made (calls ++ more)) :
    Timed made calls := by
  obtain ⟨forward, range⟩ := timed
  rw [readings_append] at forward range
  exact ⟨(List.pairwise_append.1 (List.cons_append ▸ forward)).1,
    fun reading among => range reading (List.mem_append_left _ among)⟩

theorem Timed.behind {made : Nat} {calls more : List Call} (timed : Timed made (calls ++ more)) (now : Nat)
    (read : now ∈ readings more) :
    (∀ earlier ∈ made :: readings calls, earlier ≤ now) ∧ now < made + 0x10000000000000000 := by
  obtain ⟨forward, range⟩ := timed
  rw [readings_append] at forward range
  refine ⟨fun earlier among => ?_, range now (List.mem_append_right _ read)⟩
  exact (List.pairwise_append.1 (List.cons_append ▸ forward)).2.2 earlier among now read

theorem Overdue.mono {timeoutMs : Int} {start now later : Nat} (overdue : Overdue timeoutMs start now)
    (upTo : now ≤ later) : Overdue timeoutMs start later :=
  ⟨overdue.1, Int.lt_of_lt_of_le overdue.2 (Int.ofNat_le.2 upTo)⟩

/-! ### What every call keeps -/

/-- A governor that is where calls have brought it: its offset gives the start of the period, which is a
reading of the clock, and its latch is set only if a reading was overdue. -/
structure Stands (timeoutMs : Int) (made : Nat) (calls : List Call) (governor : Governor) : Prop where
  budget : governor.timeoutMs = timeoutMs
  origin : governor.madeAt = made
  started : made + governor.startedAfter = periodStart made calls
  begun : periodStart made calls ∈ made :: readings calls
  latched : governor.timedOut = true →
    ∃ reading ∈ readings calls, Overdue timeoutMs (periodStart made calls) reading

section

variable (timeoutMs : Int) (made now : Nat) (calls : List Call) (governor : Governor)

/-- A poll takes the time since the start of the period exactly, and the latch does not change its answer. -/
theorem Stands.poll_iff (stands : Stands timeoutMs made calls governor)
    (timed : Timed made (calls ++ [.poll now])) :
    (governor.poll now).1 = true ↔ Overdue timeoutMs (periodStart made calls) now := by
  obtain ⟨behind, -⟩ := timed.behind now List.mem_cons_self
  have upTo := behind _ stands.begun
  rw [poll]
  by_cases latched : governor.timedOut = true
  · obtain ⟨reading, among, overdue⟩ := stands.latched latched
    rw [if_pos latched]
    exact iff_of_true rfl (overdue.mono (behind reading (List.mem_cons_of_mem _ among)))
  rw [if_neg latched, enabled, stands.budget]
  by_cases positive : 0 < timeoutMs
  · have spent : timeoutMs.natAbs * nanosPerMilli < governor.elapsed now ↔
        Overdue timeoutMs (periodStart made calls) now := by
      have started := stands.started
      rw [elapsed, stands.origin, Overdue, nanosPerMilli]
      omega
    rw [if_neg (by simpa using positive), ← spent]
    split
    · next more => exact iff_of_true rfl more
    · next less => exact iff_of_false Bool.false_ne_true less
  · rw [if_pos (by simpa using positive)]
    exact iff_of_false Bool.false_ne_true fun overdue => positive overdue.1

theorem poll_after : (governor.poll now).2 = { governor with timedOut := (governor.poll now).1 } := by
  rw [poll]
  split
  · next latched => rw [← latched]
  split
  · next unlatched _ => rw [← eq_false_of_ne_true unlatched]
  split
  · rfl
  · next unlatched _ _ => rw [← eq_false_of_ne_true unlatched]

theorem Stands.called (stands : Stands timeoutMs made calls governor) (call : Call)
    (timed : Timed made (calls ++ [call])) : Stands timeoutMs made (calls ++ [call]) (governor.called call) := by
  cases call with
  | arm now =>
    obtain ⟨behind, range⟩ := timed.behind now List.mem_cons_self
    have since := behind made List.mem_cons_self
    refine ⟨stands.budget, stands.origin, ?_, ?_, fun latched => Bool.noConfusion latched⟩
    · rw [periodStart_snoc]
      change made + min (now - governor.madeAt) longestOffset = now
      rw [stands.origin, longestOffset]
      omega
    · rw [periodStart_snoc, readings_append]
      exact List.mem_cons_of_mem _ (List.mem_append_right _ List.mem_cons_self)
  | poll now =>
    have decided := stands.poll_iff timeoutMs made now calls governor timed
    have start : periodStart made (calls ++ [.poll now]) = periodStart made calls := periodStart_snoc _ _ _
    change Stands timeoutMs made _ (governor.poll now).2
    rw [poll_after]
    refine ⟨stands.budget, stands.origin, start ▸ stands.started, ?_, fun answered => ⟨now, ?_, ?_⟩⟩
    · rw [start, readings_append, ← List.cons_append]
      exact List.mem_append_left _ stands.begun
    · rw [readings_append]
      exact List.mem_append_right _ List.mem_cons_self
    · rw [start]
      exact decided.1 answered
  | look =>
    have start : periodStart made (calls ++ [.look]) = periodStart made calls := periodStart_snoc _ _ _
    have same : readings (calls ++ [.look]) = readings calls := by
      rw [readings_append]
      exact List.append_nil _
    exact ⟨stands.budget, stands.origin, start ▸ stands.started, by rw [start, same]; exact stands.begun,
      by rw [start, same]; exact stands.latched⟩

/-- Every run of calls keeps this. The induction is on the calls from the last one back. -/
theorem stands_reached (timed : Timed made calls) : Stands timeoutMs made calls (reached timeoutMs made calls) := by
  induction calls using List.reverseRec with
  | nil => exact ⟨rfl, rfl, rfl, List.mem_cons_self, fun latched => Bool.noConfusion latched⟩
  | append_singleton calls call ih =>
    rw [reached_snoc]
    exact (ih timed.front).called timeoutMs made calls _ call timed

/-! ### Exact times, and no budget -/

theorem Stands.armed_exact (stands : Stands timeoutMs made calls governor)
    (timed : Timed made (calls ++ [.arm now])) :
    made + (governor.arm now).startedAfter = now ∧ (governor.arm now).startedAfter < 0x10000000000000000 := by
  have armed := stands.called timeoutMs made calls governor (.arm now) timed
  obtain ⟨behind, range⟩ := timed.behind now List.mem_cons_self
  have start : periodStart made (calls ++ [.arm now]) = now := periodStart_snoc _ _ _
  have exact_ : made + (governor.arm now).startedAfter = now := armed.started.trans start
  exact ⟨exact_, by omega⟩

theorem Stands.elapsed_exact (stands : Stands timeoutMs made calls governor)
    (timed : Timed made (calls ++ [.poll now])) : made + governor.startedAfter + governor.elapsed now = now := by
  obtain ⟨behind, -⟩ := timed.behind now List.mem_cons_self
  have upTo := behind _ stands.begun
  have started := stands.started
  rw [elapsed, stands.origin]
  omega

theorem Stands.unspent (stands : Stands timeoutMs made calls governor) (without : timeoutMs ≤ 0) :
    governor.timedOut = false := by
  rw [← Bool.not_eq_true]
  intro latched
  obtain ⟨reading, -, overdue⟩ := stands.latched latched
  exact absurd overdue.1 (Int.not_lt.2 without)

theorem Stands.poll_without (stands : Stands timeoutMs made calls governor) (without : timeoutMs ≤ 0) :
    (governor.poll now).1 = false := by
  have unspent := stands.unspent timeoutMs made calls governor without
  have off : (!governor.enabled) = true := by
    rw [enabled, stands.budget, Bool.not_eq_true', decide_eq_false_iff_not]
    exact Int.not_lt.2 without
  rw [poll, if_neg (by rw [unspent]; exact Bool.false_ne_true), if_pos off]

/-! ### The latch -/

/-- The latch tells whether a poll of the period asked for a stop. -/
theorem timedOut_reached_iff : (reached timeoutMs made calls).timedOut = true ↔
    ∃ before now later, calls = before ++ .poll now :: later ∧ (∀ call ∈ later, call.isArm = false) ∧
      ((reached timeoutMs made before).poll now).1 = true := by
  induction calls using List.reverseRec with
  | nil =>
    refine iff_of_false Bool.false_ne_true ?_
    rintro ⟨before, now, later, split_, -⟩
    cases before <;> cases split_
  | append_singleton calls call ih =>
    -- A poll of the calls before counts for the whole unless the last call begins a period.
    have earlier (still : call.isArm = false) (latched : (reached timeoutMs made calls).timedOut = true) :
        ∃ before now later, calls ++ [call] = before ++ .poll now :: later ∧ (∀ call ∈ later, call.isArm = false) ∧
          ((reached timeoutMs made before).poll now).1 = true := by
      obtain ⟨before, now, later, rfl, same, stops⟩ := ih.1 latched
      refine ⟨before, now, later ++ [call], by rw [List.append_assoc, List.cons_append], ?_, stops⟩
      exact List.forall_mem_append.2 ⟨same, List.forall_mem_singleton.2 still⟩
    -- A poll of the whole is the last call, or one before it in a period that goes on.
    have within (before later : List Call) (now : Nat) (split_ : calls ++ [call] = before ++ .poll now :: later)
        (same : ∀ call ∈ later, call.isArm = false) (stops : ((reached timeoutMs made before).poll now).1 = true) :
        (call = .poll now ∧ calls = before) ∨
          (call.isArm = false ∧ (reached timeoutMs made calls).timedOut = true) := by
      obtain rfl | ⟨more, last, rfl⟩ := later.eq_nil_or_concat
      · obtain ⟨front, ends⟩ := List.append_inj' split_ rfl
        exact .inl ⟨(List.cons.inj ends).1, front⟩
      · rw [List.concat_eq_append] at split_ same
        rw [← List.cons_append, ← List.append_assoc] at split_
        obtain ⟨front, ends⟩ := List.append_inj' split_ rfl
        obtain rfl := (List.cons.inj ends).1
        obtain ⟨kept, still⟩ := List.forall_mem_append.1 same
        exact .inr ⟨still call List.mem_cons_self, ih.2 ⟨before, now, more, front, kept, stops⟩⟩
    rw [reached_snoc]
    constructor
    · intro latched
      cases call with
      | arm now => exact absurd latched Bool.false_ne_true
      | poll now =>
        have stops : ((reached timeoutMs made calls).poll now).1 = true := by
          rw [called, poll_after] at latched
          exact latched
        exact ⟨calls, now, [], rfl, fun _ among => absurd among List.not_mem_nil, stops⟩
      | look => exact earlier rfl latched
    · rintro ⟨before, now, later, split_, same, stops⟩
      obtain ⟨rfl, rfl⟩ | ⟨still, latched⟩ := within before later now split_ same stops
      · rw [called, poll_after]
        exact stops
      · cases call with
        | arm now => cases still
        | poll now => rw [called, poll, if_pos latched]; exact latched
        | look => exact latched

theorem answers_of_timedOut (latched : governor.timedOut = true) (same : ∀ call ∈ calls, call.isArm = false) :
    governor.answers calls = calls.map fun _ => some true := by
  induction calls with
  | nil => rfl
  | cons call rest ih =>
    obtain ⟨still, later⟩ := List.forall_mem_cons.1 same
    have settled : governor.answer call = some true ∧ governor.called call = governor := by
      cases call with
      | arm now => cases still
      | poll now => rw [answer, called, poll, if_pos latched]; exact ⟨rfl, rfl⟩
      | look => exact ⟨congrArg some latched, rfl⟩
    rw [answers, settled.1, settled.2, ih later, List.map_cons]

/-! ### A new period -/

/-- Two governors in periods of the same start and budget, with their latches alike. -/
structure Agree (first second : Governor) : Prop where
  budget : first.timeoutMs = second.timeoutMs
  started : first.madeAt + first.startedAfter = second.madeAt + second.startedAfter
  latch : first.timedOut = second.timedOut

theorem Agree.answers_eq (first second : Governor) (agree : Agree first second)
    (range : ∀ now ∈ readings calls, first.madeAt ≤ now ∧ now < first.madeAt + 0x10000000000000000 ∧
      second.madeAt ≤ now ∧ now < second.madeAt + 0x10000000000000000) :
    first.answers calls = second.answers calls := by
  induction calls generalizing first second with
  | nil => rfl
  | cons call rest ih =>
    have later (call : Call) (now : Nat) (among : now ∈ readings rest) : now ∈ readings (call :: rest) := by
      cases call <;> first | exact among | exact List.mem_cons_of_mem _ among
    cases call with
    | arm now =>
      obtain ⟨one, two, three, four⟩ := range now List.mem_cons_self
      have armed : Agree (first.arm now) (second.arm now) := by
        refine ⟨agree.budget, ?_, rfl⟩
        change first.madeAt + min (now - first.madeAt) longestOffset =
          second.madeAt + min (now - second.madeAt) longestOffset
        rw [longestOffset]
        omega
      rw [answers, answers]
      exact congrArg _ (ih _ _ armed fun reading among => range reading (later (.arm now) reading among))
    | poll now =>
      have since : first.elapsed now = second.elapsed now := by
        have started := agree.started
        rw [elapsed, elapsed]
        omega
      have same : (first.poll now).1 = (second.poll now).1 := by
        rw [poll, poll, agree.latch, enabled, enabled, agree.budget, since]
        repeat' split
        all_goals rfl
      rw [answers, answers, answer, answer, called, called, same]
      refine congrArg _ (ih _ _ ?_ ?_)
      · rw [poll_after, poll_after, same]
        exact ⟨agree.budget, agree.started, rfl⟩
      · rw [poll_after, poll_after]
        exact fun reading among => range reading (later (.poll now) reading among)
    | look =>
      rw [answers, answers, answer, answer, agree.latch]
      exact congrArg _ (ih _ _ agree fun reading among => range reading (later .look reading among))

theorem Stands.answers_armed (stands : Stands timeoutMs made calls governor) (later : List Call)
    (timed : Timed made (calls ++ .arm now :: later)) :
    (governor.arm now).answers later = (create timeoutMs now).answers later := by
  have whole : Timed made ((calls ++ [.arm now]) ++ later) := by
    rw [List.append_assoc]
    exact timed
  have armed := stands.called timeoutMs made calls governor (.arm now) whole.front
  have start : periodStart made (calls ++ [.arm now]) = now := periodStart_snoc _ _ _
  refine Agree.answers_eq later _ _ ⟨armed.budget, ?_, rfl⟩ ?_
  · calc (governor.arm now).madeAt + (governor.arm now).startedAfter
      _ = made + (governor.arm now).startedAfter := congrArg (· + _) armed.origin
      _ = now := armed.started.trans start
      _ = (create timeoutMs now).madeAt + (create timeoutMs now).startedAfter := (Nat.add_zero now).symm
  · intro reading among
    obtain ⟨behind, below⟩ := whole.behind reading among
    have since := behind made List.mem_cons_self
    have after := behind now (by
      rw [readings_append]
      exact List.mem_cons_of_mem _ (List.mem_append_right _ List.mem_cons_self))
    obtain ⟨before, -⟩ := whole.front.behind now List.mem_cons_self
    have first := before made List.mem_cons_self
    rw [show (governor.arm now).madeAt = made from armed.origin, show (create timeoutMs now).madeAt = now from rfl]
    omega

end

/-- A governor that is made at a time with a budget of 64 bits, and then called with a clock that does not go
back, keeps one deadline for each period. A poll asks for a stop exactly if more time than the budget, which
must be positive, has passed since the period began. The budget counts as found spent exactly if a poll of
the period asked for a stop, and from then on all answers of the period say so. Arming makes it as good as
new. Without a budget it never asks for a stop. No offset is cut off, no difference is negative, and the
budget fits its types. -/
theorem interrupts_by_deadline (timeoutMs : Int) (least : -0x8000000000000000 ≤ timeoutMs)
    (greatest : timeoutMs < 0x8000000000000000) (made : Nat) (calls : List Call) (timed : Timed made calls) :
    (∀ now, Timed made (calls ++ [.poll now]) →
      (((reached timeoutMs made calls).poll now).1 = true ↔ Overdue timeoutMs (periodStart made calls) now)) ∧
    ((reached timeoutMs made calls).timedOut = true ↔
      ∃ before now later, calls = before ++ .poll now :: later ∧ (∀ call ∈ later, call.isArm = false) ∧
        ((reached timeoutMs made before).poll now).1 = true) ∧
    (∀ now later, ((reached timeoutMs made calls).poll now).1 = true → (∀ call ∈ later, call.isArm = false) →
      ((reached timeoutMs made calls).poll now).2.answers later = later.map fun _ => some true) ∧
    (∀ now later, Timed made (calls ++ .arm now :: later) →
      ((reached timeoutMs made calls).arm now).answers later = (create timeoutMs now).answers later) ∧
    (timeoutMs ≤ 0 → (reached timeoutMs made calls).timedOut = false ∧
      ∀ now, ((reached timeoutMs made calls).poll now).1 = false) ∧
    (∀ now, Timed made (calls ++ [.arm now]) →
      made + ((reached timeoutMs made calls).arm now).startedAfter = now ∧
        ((reached timeoutMs made calls).arm now).startedAfter < 0x10000000000000000) ∧
    (∀ now, Timed made (calls ++ [.poll now]) →
      made + (reached timeoutMs made calls).startedAfter + (reached timeoutMs made calls).elapsed now = now) ∧
    timeoutMs.natAbs < 0x10000000000000000 ∧ timeoutMs.natAbs * nanosPerMilli < 0x10000000000000000 * 1000000000 := by
  have stands := stands_reached timeoutMs made calls timed
  refine ⟨fun now => stands.poll_iff timeoutMs made now calls _, timedOut_reached_iff timeoutMs made calls, ?_,
    fun now later => stands.answers_armed timeoutMs made now calls _ later,
    fun without => ⟨stands.unspent timeoutMs made calls _ without, fun now =>
      stands.poll_without timeoutMs made now calls _ without⟩,
    fun now => stands.armed_exact timeoutMs made now calls _,
    fun now => stands.elapsed_exact timeoutMs made now calls _, by omega, by rw [nanosPerMilli]; omega⟩
  intro now later stops same
  exact answers_of_timedOut later _ (by rw [poll_after]; exact stops) same

def secondPeriod : List Call := [.poll 500000, .arm 2000000, .poll 3000000]

/-- At the end of the millisecond there is no stop yet; a nanosecond later there is, and then on. -/
theorem interrupts_in_secondPeriod :
    -0x8000000000000000 ≤ (1 : Int) ∧ (1 : Int) < 0x8000000000000000 ∧ Timed 7 secondPeriod ∧
      ((reached 1 7 secondPeriod).poll 3000000).1 = false ∧
      ((reached 1 7 secondPeriod).poll 3000001).1 = true ∧
      ((reached 1 7 secondPeriod).poll 3000001).2.answers [.look, .poll 3000002] = [some true, some true] ∧
      ((reached 1 7 secondPeriod).arm 4000000).answers [.poll 5000000, .poll 5000001] =
        (create 1 4000000).answers [.poll 5000000, .poll 5000001] := by
  have least : -0x8000000000000000 ≤ (1 : Int) := by decide
  have greatest : (1 : Int) < 0x8000000000000000 := by decide
  have timed : Timed 7 secondPeriod := by decide
  obtain ⟨polls, -, stays, fresh, -⟩ := interrupts_by_deadline 1 least greatest 7 secondPeriod timed
  have start : periodStart 7 secondPeriod = 2000000 := rfl
  have inTime : ((reached 1 7 secondPeriod).poll 3000000).1 = false := by
    rw [← Bool.not_eq_true, polls 3000000 (by decide), start]
    decide
  have late : ((reached 1 7 secondPeriod).poll 3000001).1 = true := by
    rw [polls 3000001 (by decide), start]
    decide
  exact ⟨least, greatest, timed, inTime, late, stays 3000001 _ late (by decide), fresh 4000000 _ (by decide)⟩

end ScriptSandbox.Governor
