import Mathlib
import ScriptSandbox.Proofs.Abort
import ScriptSandbox.Proofs.ConsoleText
import ScriptSandbox.Proofs.Surrogates

/-!
What is printed, text by text. The host gets the bytes of an argument from its text, so everything that a script
prints is the bytes of texts (`Speaks`), and what is shown of an evaluation whose output is not cut off is nothing
but these texts, each as it is shown on its own, one after the other.
-/

namespace ScriptSandbox

open Script Script.Execution

def IsText (bytes : Array UInt8) : Prop := ∃ text : Units, text.toBytes = bytes

/-- A computation that writes nothing but texts, and whose results are as is said. -/
def Dialogue.Speaks (ends : α → Prop) : Dialogue α → Prop
  | .done result => ends result
  | .ask question next =>
    (∀ bytes, question = .write bytes → IsText bytes) ∧ ∀ answer, (next answer).Speaks ends

theorem Dialogue.Speaks.bind (ends : α → Prop) (later : β → Prop) (first : Dialogue α) (next : α → Dialogue β)
    (speaks : first.Speaks ends) (goesOn : ∀ result, ends result → (next result).Speaks later) :
    (first.bind next).Speaks later := by
  induction first with
  | done result => exact goesOn result speaks
  | ask question rest ih => exact ⟨speaks.1, fun answer => ih answer (speaks.2 answer)⟩

namespace Host

def Effect.piece? : Effect → Option (Array UInt8)
  | .wrote bytes => some bytes
  | .called _ _ _ => none

theorem exists_texts (clock : Clock) (ends : α → Prop) (dialogue : Dialogue α) (host : Host)
    (speaks : dialogue.Speaks ends) :
    ∃ texts : List Units, (effects clock dialogue host).filterMap Effect.piece? = texts.map Units.toBytes := by
  induction dialogue generalizing host with
  | done result => exact ⟨[], rfl⟩
  | ask question next ih =>
    obtain ⟨texts, later⟩ := ih _ (host.reply clock question).2 (speaks.2 (host.reply clock question).1)
    have now : ∃ first : List Units, (host.effect question).filterMap Effect.piece? = first.map Units.toBytes := by
      cases question with
      | write bytes =>
        obtain ⟨text, rfl⟩ := speaks.1 bytes rfl
        exact ⟨[text], rfl⟩
      | request request =>
        refine ⟨[], ?_⟩
        unfold effect
        cases host.callback <;> rfl
      | _ => exact ⟨[], rfl⟩
    obtain ⟨first, now⟩ := now
    refine ⟨first ++ texts, ?_⟩
    change (host.effect question ++ _).filterMap Effect.piece? = _
    rw [List.filterMap_append, now, later, List.map_append]

theorem written_eq_pieces (effects : List Effect) :
    written effects = (effects.filterMap Effect.piece?).flatMap Array.toList := by
  induction effects with
  | nil => rfl
  | cons effect rest ih =>
    rw [written, List.flatMap_cons]
    cases effect with
    | wrote bytes => exact congrArg (bytes.toList ++ ·) ih
    | called callback answers request => exact ih

end Host

/-! ### Scripts that speak -/

namespace Script.Execution

def Outcome.Gives (ends : α → Prop) : Outcome α → Prop
  | .value result _ => ends result
  | _ => True

def Ending.Gives (ends : α → Prop) : Ending α → Prop
  | .value result => ends result
  | _ => True

def Speaks (ends : α → Prop) (part : Execution α) : Prop := ∀ machine, (part machine).Speaks (Outcome.Gives ends)

section

variable (ends : α → Prop) (later : β → Prop)

theorem speaks_pure (result : α) (fits : ends result) : Speaks ends (pure result : Execution α) := fun _ => fits

theorem speaks_bind (first : Execution α) (next : α → Execution β) (speaks : Speaks ends first)
    (goesOn : ∀ result, ends result → Speaks later (next result)) : Speaks later (first >>= next) := by
  intro machine
  rw [bind_eq]
  refine Dialogue.Speaks.bind (Outcome.Gives ends) (Outcome.Gives later) _ _ (speaks machine) fun outcome given => ?_
  cases outcome with
  | value result machine => exact goesOn result given machine
  | thrown reason machine => exact trivial
  | stopped reason machine => exact trivial

theorem speaks_throwValue (reason : Value) : Speaks ends (throwValue reason : Execution α) := fun _ => trivial

theorem speaks_stop (reason : Stop) : Speaks ends (stop reason : Execution α) := fun _ => trivial

theorem speaks_attempt (part : Execution α) (speaks : Speaks ends part) :
    Speaks (Ending.Gives ends) (attempt part) := by
  intro machine
  refine Dialogue.Speaks.bind (Outcome.Gives ends) _ _ _ (speaks machine) fun outcome given => ?_
  cases outcome with
  | value result machine => exact given
  | thrown reason machine => exact trivial
  | stopped reason machine => exact trivial

theorem speaks_quietly (part : Execution α) (speaks : Speaks ends part) :
    Speaks (fun found => ∀ result, found = some result → ends result) (quietly part) := by
  refine speaks_bind _ _ _ _ (speaks_attempt ends part speaks) fun ending given => ?_
  cases ending with
  | value result => exact speaks_pure _ _ fun _ same => Option.some.inj same ▸ given
  | thrown reason => exact speaks_pure _ _ nofun
  | stopped reason =>
    cases reason with
    | interrupted => exact speaks_pure _ _ nofun
    | exhausted => exact speaks_stop _ _

theorem speaks_throwNew (cls : ErrorClass) (message : String) : Speaks ends (throwNew cls message : Execution α) :=
  have made : Speaks (fun _ => True) (makeError cls (Units.ofString message)) :=
    speaks_bind (fun _ => True) _ _ _ (fun _ => trivial) fun _ _ => speaks_pure _ _ trivial
  speaks_bind _ _ _ _ made fun _ _ => speaks_throwValue _ _

end

theorem speaks_ask (question : Question) (texts : ∀ bytes, question = .write bytes → IsText bytes) :
    Speaks (fun _ => True) (ask question) := fun _ => ⟨texts, fun _ => trivial⟩

theorem speaks_write (bytes : Array UInt8) (isText : IsText bytes) : Speaks (fun _ => True) (ask (.write bytes)) :=
  speaks_ask _ fun _ same => Question.write.inj same ▸ isText

end Script.Execution

/-! ### Printing and fetching -/

namespace Primitives

open printWith

theorem isText_blank : IsText #[32] := ⟨Units.ofString " ", by decide +kernel⟩

theorem isText_newline : IsText #[10] := ⟨Units.ofString "\n", by decide +kernel⟩

section

variable (coerce : Value → Execution (Array UInt8)) (texts : ∀ value, Speaks IsText (coerce value))
include texts

theorem speaks_printItems (values : List Value) (first : Bool) :
    Speaks (fun _ => True) (printItems coerce values first) := by
  induction values generalizing first with
  | nil => exact speaks_pure _ _ trivial
  | cons value rest ih =>
    have written : Speaks (fun _ => True) (quietly (coerce value) >>= offered coerce rest) := by
      refine speaks_bind _ _ _ _ (speaks_quietly IsText _ (texts value)) fun found isText => ?_
      cases found with
      | some bytes => exact speaks_bind _ _ _ _ (speaks_write bytes (isText bytes rfl)) fun _ _ => ih false
      | none => exact ih false
    rw [printItems_cons]
    cases first with
    | true => exact written
    | false => exact speaks_bind _ _ _ _ (speaks_write #[32] isText_blank) fun _ _ => written

theorem speaks_printWith (values : List Value) : Speaks (fun _ => True) (printWith coerce values) := by
  refine speaks_bind _ _ _ _ (speaks_ask .bound nofun) fun bound _ => ?_
  cases bound with
  | false => exact speaks_pure _ _ trivial
  | true =>
    exact speaks_bind _ _ _ _ (speaks_printItems coerce texts values true) fun _ _ =>
      speaks_write #[10] isText_newline

end

section

variable (options : Execution (String × Option String)) (build : HttpResponse → Execution Value)
  (reads : Speaks (fun _ => True) options) (builds : ∀ response, Speaks (fun _ => True) (build response))
include reads builds

theorem speaks_addressed (url : String) : Speaks (fun _ => True) (addressed options build url) := by
  refine speaks_bind _ _ _ _ reads fun found _ => ?_
  refine speaks_bind _ _ _ _ (speaks_ask (.request _) nofun) fun answer _ => ?_
  cases answer with
  | ok response => exact builds response
  | error reports => exact speaks_throwNew _ _ _

theorem speaks_requestWith (url : Option (Execution String))
    (spells : ∀ part, url = some part → Speaks (fun _ => True) part) :
    Speaks (fun _ => True) (requestWith url options build) := by
  refine speaks_bind _ _ _ _ (speaks_ask .bound nofun) fun bound _ => ?_
  cases bound with
  | false => exact speaks_throwNew _ _ _
  | true =>
    refine speaks_bind _ _ _ _ (speaks_ask .callback nofun) fun callback _ => ?_
    cases callback with
    | false => exact speaks_throwNew _ _ _
    | true =>
      cases url with
      | none => exact speaks_throwNew _ _ _
      | some part =>
        refine speaks_bind _ _ _ _ (speaks_quietly _ part (spells part rfl)) fun address _ => ?_
        cases address with
        | none => exact speaks_throwNew _ _ _
        | some address => exact speaks_addressed options build reads builds address

end

end Primitives

/-! ### Literate scripts -/

namespace Conduct

/-- A script whose values print as the bytes of texts, and whose results are as is said. -/
def Literate : Conduct α → (α → Prop) → Prop
  | .returns result, ends => ends result
  | .throws _, _ => True
  | .works _ next, ends => ∀ machine, (next machine).Literate ends
  | .polls next, ends => next.Literate ends
  | .time next, ends => ∀ now, (next now).Literate ends
  | .uptime next, ends => ∀ now, (next now).Literate ends
  | .prints _ coerce next, ends => (∀ value, (coerce value).Literate IsText) ∧ next.Literate ends
  | .fetches _ url options build next, ends =>
    url.Literate (fun _ => True) ∧ options.Literate (fun _ => True) ∧
      (∀ response, (build response).Literate fun _ => True) ∧ ∀ result, (next result).Literate ends

theorem speaks_run (conduct : Conduct α) (ends : α → Prop) (literate : conduct.Literate ends) :
    Speaks ends conduct.run := by
  induction conduct with
  | returns result => exact speaks_pure ends result literate
  | throws reason => exact speaks_throwValue ends reason
  | works change next ih => exact fun machine => ih (change machine) ends (literate (change machine)) (change machine)
  | polls next ih =>
    refine speaks_bind _ _ _ _ (speaks_ask .interrupt nofun) fun stops _ => ?_
    cases stops with
    | true => exact speaks_stop _ _
    | false => exact ih ends literate
  | time next ih => exact speaks_bind _ _ _ _ (speaks_ask .time nofun) fun now _ => ih now ends (literate now)
  | uptime next ih => exact speaks_bind _ _ _ _ (speaks_ask .uptime nofun) fun now _ => ih now ends (literate now)
  | prints values coerce next texts ih =>
    refine speaks_bind _ _ _ _ (Primitives.speaks_printWith _ (fun value => ?_) values) fun _ _ => ih ends literate.2
    exact texts value IsText (literate.1 value)
  | fetches given url options build next spells reads builds ih =>
    obtain ⟨spelled, read, built, goesOn⟩ := literate
    have fetched : Speaks (fun _ => True) (fetching given url options build) := by
      refine Primitives.speaks_requestWith _ _ (reads _ read) (fun response => builds response _ (built response)) _ ?_
      intro part same
      cases given with
      | true => exact Option.some.inj same ▸ spells _ spelled
      | false => cases same
    refine speaks_bind _ _ _ _ (speaks_attempt _ _ fetched) fun ending _ => ?_
    cases ending with
    | value response => exact ih _ ends (goesOn _)
    | thrown reason => exact ih _ ends (goesOn _)
    | stopped reason => exact speaks_stop _ _

end Conduct

def Behaviour.Literate (behaviour : Behaviour) : Prop :=
  ∀ source, (behaviour.program source).Literate fun _ => True

namespace Session

def utterances [Runtime] (session : Session) (clock : Clock) (code : String) : List (Array UInt8) :=
  (session.evaluationEffects clock code).filterMap Host.Effect.piece?

theorem shown_of_literate (behaviour : Behaviour) (literate : behaviour.Literate) (session after : Session)
    (clock : Clock) (code : String) (result : EvalResult)
    (completed : @eval behaviour.runtime session clock code = (.completed result, after))
    (whole : result.consoleTruncated = false) :
    ∃ texts : List Units, @utterances behaviour.runtime session clock code = texts.map Units.toBytes ∧
      result.consoleOutput = String.join (texts.map Units.toText) := by
  let _ := behaviour.runtime
  obtain ⟨clean, output, flag⟩ :=
    console_of_completed behaviour.silent_surface session after clock code result completed
  obtain ⟨texts, pieces⟩ := Host.exists_texts clock (Outcome.Gives fun _ => True)
    (Runtime.evaluate (Units.ofString code) (session.begun clock).machine) (session.begun clock).host
    (Conduct.speaks_run _ _ (literate (Units.ofString code)) (session.begun clock).machine)
  have written : Host.output clock (Runtime.evaluate (Units.ofString code) (session.begun clock).machine)
      (session.begun clock).host = texts.flatMap fun text => text.toBytes.toList := by
    rw [Host.output, Host.written_eq_pieces, pieces, List.flatMap_map]
  have holds := Host.converse_holds clock (Runtime.evaluate (Units.ofString code) (session.begun clock).machine)
    (session.begun clock).host [] (Console.holds_reset session.host.console)
  rw [List.nil_append, written] at holds
  -- Nothing was cut off, so the console holds all that was written.
  have fits := decide_eq_false_iff_not.1 (holds.truncated.symm.trans (flag.symm.trans whole))
  have bytes := holds.bytes.trans (List.take_of_length_le (Nat.not_lt.1 fits))
  refine ⟨texts, ?_, ?_⟩
  · rw [utterances, evaluationEffects, clean]
    exact pieces
  · rw [← Units.decode_texts, ← bytes]
    exact output

/-- What is shown of a text is made of its signs, of which there is one reading only: characters are shown as they
are, and a surrogate without a partner as three replacement characters. The bytes of texts, decoded together, show
what each text shows on its own, also where one ends and the next starts with a surrogate; texts that come from the
host are shown unchanged. So an evaluation that completes with all its output shows the texts that were printed,
one after the other. -/
theorem consoleOutput_of_texts (behaviour : Behaviour) (literate : behaviour.Literate) :
    (∀ text : Units, ∃ signs, Units.Reads text.toList signs ∧
      (∀ others, Units.Reads text.toList others → others = signs) ∧
      text.toText.toList = signs.flatMap Units.Sign.shown) ∧
    (∀ texts : List Units, Lossy.decode (texts.flatMap fun text => text.toBytes.toList).toArray =
      String.join (texts.map Units.toText)) ∧
    (∀ text : String, (Units.ofString text).toText = text) ∧
    ∀ granted clock uses code result after,
      @eval behaviour.runtime (@afterUses behaviour.runtime granted clock uses) clock code =
        (.completed result, after) →
      result.consoleTruncated = false →
      ∃ texts : List Units,
        @utterances behaviour.runtime (@afterUses behaviour.runtime granted clock uses) clock code =
          texts.map Units.toBytes ∧
        result.consoleOutput = String.join (texts.map Units.toText) := by
  refine ⟨fun text => ?_, Units.decode_texts, Units.toText_ofString, ?_⟩
  · obtain ⟨signs, reads⟩ := Units.exists_reads text.toList
    exact ⟨signs, reads, fun others => reads.unique text signs others, Units.toText_of_reads text signs reads⟩
  · intro granted clock uses code result after completed whole
    exact shown_of_literate behaviour literate _ after clock code result completed whole

def halving : Behaviour where
  program _ := .prints [.null] (fun _ => .returns (Units.toBytes #[0xD83D]))
    (.prints [.null] (fun _ => .returns (Units.toBytes #[0xDE00])) (.returns .null))
  toUnits _ := .returns #[]
  get _ _ := .returns .undefined
  isArray _ := .returns false
  lengthOf _ := .returns 0
  define _ _ := .returns ()

theorem halving_literate : halving.Literate := fun _ =>
  ⟨fun _ => ⟨#[0xD83D], rfl⟩, fun _ => ⟨#[0xDE00], rfl⟩, trivial⟩

def halved : EvalOutcome × Session :=
  @eval halving.runtime
    (@afterUses halving.runtime { memoryBytes := 0, timeoutMs := 0, consoleBytes := 8 } Sandbox.stillClock [])
    Sandbox.stillClock ""

/-- The halves of a character are not put together. -/
theorem halves_stay_apart :
    halving.Literate ∧
    ∃ after, halved = (.completed { value := .null, consoleOutput := "\uFFFD\uFFFD\uFFFD\n\uFFFD\uFFFD\uFFFD\n"
                                    consoleTruncated := false }, after) ∧
      ∃ texts : List Units, "\uFFFD\uFFFD\uFFFD\n\uFFFD\uFFFD\uFFFD\n" = String.join (texts.map Units.toText) := by
  have completed : ∃ after, halved = (.completed
      { value := .null, consoleOutput := "\uFFFD\uFFFD\uFFFD\n\uFFFD\uFFFD\uFFFD\n", consoleTruncated := false },
        after) := by
    have clean : "".contains '\x00' = false := by simp
    simp only [halved, eval, evaluated, clean, Bool.false_eq_true, if_false]
    exact ⟨_, rfl⟩
  obtain ⟨after, completed⟩ := completed
  obtain ⟨-, -, -, shows⟩ := consoleOutput_of_texts halving halving_literate
  obtain ⟨texts, -, shown⟩ := shows _ _ _ _ _ _ completed rfl
  exact ⟨halving_literate, after, completed, texts, shown⟩

end Session

end ScriptSandbox
