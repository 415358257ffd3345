import ScriptSandbox.Proofs.Isolation
import ScriptSandbox.Proofs.Replacement

/-!
The console as a host is shown it. The cap counts the bytes that are captured. The text is what these bytes
decode to, so it may be longer: a character that the cap cuts in two, and a surrogate without a partner, become
replacement characters, which are longer than what they stand for.
-/

namespace ScriptSandbox

theorem Text.length_bytes (text : String) : (bytes text).length = text.utf8ByteSize := String.size_toByteArray

theorem Text.utf8ByteSize_eq (text : String) : text.utf8ByteSize = (text.toList.map Char.utf8Size).sum := by
  rw [← length_bytes, bytes_eq, List.length_flatMap]
  simp only [String.length_utf8EncodeChar]

namespace Lossy

theorem splits_chars (chars : List Char) : Splits (chars.flatMap String.utf8EncodeChar) (chars.map .whole) := by
  induction chars with
  | nil => exact .nil
  | cons c chars ih => exact .cons (.whole c) _ _ trivial ih

theorem broken_of_cut (c : Char) (count : Nat) (some : count ≠ 0)
    (cut : count < (String.utf8EncodeChar c).length) : Broken ((String.utf8EncodeChar c).take count) [] := by
  have length : ((String.utf8EncodeChar c).take count).length = count := by
    rw [List.length_take, Nat.min_eq_left (Nat.le_of_lt cut)]
  refine ⟨fun nothing => ?_, fun d whole => ?_, .inr ⟨c, List.take_prefix _ _⟩, nofun⟩
  · rw [nothing] at length
    exact some length.symm
  · rw [List.append_nil] at whole
    have shorter := whole.length_le
    rw [eq_of_begins d c (whole.trans (List.take_prefix _ _))] at shorter
    omega

theorem splits_take (chars : List Char) (count : Nat) :
    ∃ pieces, Splits ((chars.flatMap String.utf8EncodeChar).take count) pieces ∧
      (pieces.map Piece.growth).sum ≤ 2 := by
  induction chars generalizing count with
  | nil => exact ⟨[], by simpa using Splits.nil, Nat.zero_le 2⟩
  | cons c chars ih =>
    rw [List.flatMap_cons, List.take_append]
    by_cases cut : count < (String.utf8EncodeChar c).length
    · rw [Nat.sub_eq_zero_of_le (Nat.le_of_lt cut), List.take_zero]
      by_cases nothing : count = 0
      · rw [nothing, List.take_zero]
        exact ⟨[], .nil, Nat.zero_le 2⟩
      · have stands := broken_of_cut c count nothing cut
        exact ⟨[.broken _], .cons (.broken _) [] [] stands .nil, (Piece.size_of_stands (.broken _) [] stands).2⟩
    · obtain ⟨pieces, splits, growth⟩ := ih (count - (String.utf8EncodeChar c).length)
      rw [List.take_of_length_le (Nat.not_lt.1 cut)]
      refine ⟨.whole c :: pieces, .cons (.whole c) _ _ trivial splits, ?_⟩
      rw [List.map_cons, List.sum_cons, Piece.growth, Nat.zero_add]
      exact growth

theorem size_decode (bytes : Array UInt8) (pieces : List Piece) (splits : Splits bytes.toList pieces) :
    (decode bytes).utf8ByteSize = bytes.size + (pieces.map Piece.growth).sum := by
  rw [Text.utf8ByteSize_eq, decode_of_splits bytes pieces splits, splits.size]
  exact congrArg (· + _) bytes.length_toList

theorem decode_bytes (bytes : Array UInt8) (text : String) (same : bytes.toList = Text.bytes text) :
    decode bytes = text := by
  have splits : Splits bytes.toList (text.toList.map .whole) := by
    rw [same, Text.bytes_eq]
    exact splits_chars text.toList
  refine String.toList_inj.1 ((decode_of_splits bytes _ splits).trans ?_)
  rw [List.map_map]
  exact List.map_id text.toList

/-- The bytes of a text, cut off anywhere, decode to a text that is at most two bytes longer than they are. -/
theorem size_decode_of_cut (bytes : Array UInt8) (text : String) (start : bytes.toList <+: Text.bytes text) :
    (decode bytes).utf8ByteSize ≤ bytes.size + 2 := by
  have cut : bytes.toList = (Text.bytes text).take bytes.toList.length := List.prefix_iff_eq_take.1 start
  obtain ⟨pieces, splits, growth⟩ := splits_take text.toList bytes.toList.length
  rw [← Text.bytes_eq, ← cut] at splits
  rw [size_decode bytes pieces splits]
  exact Nat.add_le_add_left growth bytes.size

end Lossy

namespace Session

open Script.Execution Lossy

section

variable [Runtime]

theorem finished_session (session : Session) (clock : Clock) (found : Evaluated) (result : EvalResult)
    (completed : (session.finished clock found).1 = .completed result) :
    (session.finished clock found).2 = session := by
  obtain ⟨value, rfl⟩ := (finished_completed session clock found result completed).1
  cases latched : session.host.governor.timedOut with
  | true => rw [finished_of_latched session clock _ latched]
  | false => exact (finished_of_unlatched session clock _ latched).2.1 nofun

/-- What is written during an evaluation: while the source text runs, and then, if that comes to a value, while
the value is converted. -/
def evaluationOutput (session : Session) (clock : Clock) (code : String) : List UInt8 :=
  Host.output clock (Runtime.evaluate (Units.ofString code) (session.begun clock).machine)
      (session.begun clock).host ++
    following (fun value machine host =>
        Host.output clock (Marshal.fromScript value machine) { host with bound := false })
      (Host.converse clock (Runtime.evaluate (Units.ofString code) (session.begun clock).machine)
        (session.begun clock).host)

theorem evaluated_holds (session : Session) (clock : Clock) (code : String) (value : HostValue)
    (found : ((session.begun clock).evaluated clock code).1 = .value value) :
    ((session.begun clock).evaluated clock code).2.host.console.Holds (session.evaluationOutput clock code) := by
  have started := Host.converse_holds clock
    (Runtime.evaluate (Units.ofString code) (session.begun clock).machine) (session.begun clock).host []
    (Console.holds_reset session.host.console)
  unfold evaluationOutput
  rcases ended : Host.converse clock (Runtime.evaluate (Units.ofString code) (session.begun clock).machine)
    (session.begun clock).host with ⟨outcome, host⟩
  rw [ended] at started
  have ran : (session.begun clock).run clock (Runtime.evaluate (Units.ofString code)) =
      ((settled outcome).1, { session.begun clock with machine := (settled outcome).2, host }) := by
    rw [run, ended]
  cases nul : code.contains '\x00' with
  | true =>
    rw [evaluated, nul, if_pos rfl] at found
    cases found
  | false =>
    cases outcome with
    | value result machine =>
      have same : (session.begun clock).evaluated clock code =
          ({ session.begun clock with machine, host } : Session).unbound.converted clock result := by
        rw [evaluated, nul, if_neg Bool.false_ne_true, ran]
        rfl
      rw [same, converted_session]
      exact Host.converse_holds clock (Marshal.fromScript result machine) { host with bound := false } _ started
    | thrown reason machine =>
      rw [evaluated, nul, if_neg Bool.false_ne_true, ran] at found
      cases found
    | stopped reason machine =>
      rw [evaluated, nul, if_neg Bool.false_ne_true, ran] at found
      cases found

/-- A completed evaluation shows what its console has captured, within the cap that the session was given. -/
theorem captured_of_completed (limits : Limits) (clock : Clock) (uses : List Use) (code : String)
    (result : EvalResult) (after : Session)
    (completed : (afterUses limits clock uses).eval clock code = (.completed result, after)) :
    after.host.console.bytes.toList =
        ((afterUses limits clock uses).evaluationOutput clock code).take limits.consoleBytes ∧
      result.consoleOutput = decode after.host.console.bytes := by
  have resting := resting_afterUses limits clock uses
  generalize afterUses limits clock uses = session at resting completed ⊢
  have outcome := (session.eval_outcome clock code).symm.trans (congrArg Prod.fst completed)
  obtain ⟨⟨value, found⟩, shown, -⟩ := finished_completed _ clock _ result outcome
  have left := finished_session _ clock _ result outcome
  have console : after.host.console = ((session.begun clock).evaluated clock code).2.host.console := by
    rw [← left]
    exact congrArg (fun ended => ended.2.host.console) completed.symm
  have ended := (endowed_eval limits (installed uses) session clock code resting.toEndowed).cap
  rw [completed] at ended
  have holds := session.evaluated_holds clock code value found
  rw [← console] at holds shown
  exact ⟨ended ▸ holds.bytes, shown⟩

/-- Whatever a completed evaluation writes, its console captures what fits under the cap. The text that a host is
shown is made of the characters among these bytes, with a replacement character for each stretch of one to three
bytes that is not UTF-8. So it is longer than what was captured by what these stretches grow, and never more than
three times the cap; by two bytes at most if what was captured is the start of a text, cut off anywhere; and not at
all if it is a text. -/
theorem consoleOutput_decodes (limits : Limits) (clock : Clock) (uses : List Use) (code : String)
    (result : EvalResult) (after : Session)
    (completed : (afterUses limits clock uses).eval clock code = (.completed result, after)) :
    after.host.console.bytes.toList =
      ((afterUses limits clock uses).evaluationOutput clock code).take limits.consoleBytes ∧
    after.host.console.bytes.size ≤ limits.consoleBytes ∧
    (∃ pieces, Splits after.host.console.bytes.toList pieces ∧
      result.consoleOutput.toList = pieces.map Piece.shown ∧
      result.consoleOutput.utf8ByteSize = after.host.console.bytes.size + (pieces.map Piece.growth).sum) ∧
    result.consoleOutput.utf8ByteSize ≤ 3 * limits.consoleBytes ∧
    (∀ text, after.host.console.bytes.toList <+: Text.bytes text →
      result.consoleOutput.utf8ByteSize ≤ limits.consoleBytes + 2) ∧
    (∀ text, after.host.console.bytes.toList = Text.bytes text →
      result.consoleOutput = text ∧ result.consoleOutput.utf8ByteSize ≤ limits.consoleBytes) := by
  obtain ⟨captured, shown⟩ := captured_of_completed limits clock uses code result after completed
  have fits : after.host.console.bytes.size ≤ limits.consoleBytes := by
    rw [← Array.length_toList, captured, List.length_take]
    exact Nat.min_le_left _ _
  obtain ⟨pieces, splits, characters⟩ := exists_splits after.host.console.bytes
  have size := size_decode after.host.console.bytes pieces splits
  have growth := splits.growth_le
  rw [Array.length_toList] at growth
  rw [shown]
  refine ⟨captured, fits, ⟨pieces, splits, characters, size⟩, ?_, fun text start => ?_, fun text same => ?_⟩
  · rw [size]
    omega
  · exact Nat.le_trans (size_decode_of_cut _ text start) (Nat.add_le_add_right fits 2)
  · have whole := decode_bytes _ text same
    refine ⟨whole, ?_⟩
    rw [whole, ← Text.length_bytes, ← same, Array.length_toList]
    exact fits

end

def echoing : Behaviour where
  program source := .prints [.null] (fun _ => .returns source.toBytes) (.returns .null)
  toUnits _ := .returns #[]
  get _ _ := .returns .undefined
  isArray _ := .returns false
  lengthOf _ := .returns 0
  define _ _ := .returns ()

def echoed (consoleBytes : Nat) (text : String) : EvalOutcome × Session :=
  @eval echoing.runtime
    (@afterUses echoing.runtime { memoryBytes := 0, timeoutMs := 0, consoleBytes } Sandbox.stillClock [])
    Sandbox.stillClock text

/-- The last character is cut off after two of its three bytes. -/
theorem consoleOutput_of_cut_euro :
    ∃ after, echoed 3 "a€" =
        (.completed { value := .null, consoleOutput := "a\uFFFD", consoleTruncated := true }, after) ∧
      after.host.console.bytes = #[0x61, 0xE2, 0x82] ∧
      (∃ pieces, Splits [0x61, 0xE2, 0x82] pieces ∧ "a\uFFFD".toList = pieces.map Piece.shown ∧
        "a\uFFFD".utf8ByteSize = 3 + (pieces.map Piece.growth).sum) ∧
      "a\uFFFD".utf8ByteSize ≤ 3 + 2 := by
  have clean : "a€".contains '\x00' = false := by simp
  have completed : ∃ after, echoed 3 "a€" =
        (.completed { value := .null, consoleOutput := "a\uFFFD", consoleTruncated := true }, after) ∧
      after.host.console.bytes = #[0x61, 0xE2, 0x82] := by
    simp only [echoed, eval, evaluated, clean, Bool.false_eq_true, if_false]
    exact ⟨_, rfl, rfl⟩
  obtain ⟨after, completed, captured⟩ := completed
  obtain ⟨-, -, pieces, -, start, -⟩ :=
    @consoleOutput_decodes echoing.runtime _ Sandbox.stillClock [] "a€" _ after completed
  rw [captured] at pieces start
  exact ⟨after, completed, captured, pieces, start "a€" ⟨[0xAC], by decide⟩⟩

/-- Of a character of two bytes one is captured, and three are shown. -/
theorem cut_accent_exceeds_cap :
    (echoed 1 "é").1 = .completed { value := .null, consoleOutput := "\uFFFD", consoleTruncated := true } ∧
      1 < "\uFFFD".utf8ByteSize := by
  have clean : "é".contains '\x00' = false := by simp
  simp only [echoed, eval, evaluated, clean, Bool.false_eq_true, if_false]
  exact ⟨rfl, by decide⟩

end Session

end ScriptSandbox
