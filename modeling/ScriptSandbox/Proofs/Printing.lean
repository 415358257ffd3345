import ScriptSandbox.Proofs.Steps

/-!
What a call of `print` writes. The code that writes an argument as a text may print and fetch by itself, to
any depth, and may fail; whatever it prints stands between the blank before the argument and its text, and a
failure leaves out nothing but the text. The main statement reads a call off its arguments, one after the
other, and says what the console holds in the end and at every moment before.
-/

namespace ScriptSandbox

open Script Script.Execution Primitives.printWith

def World.wrote (world : World) (bytes : Array UInt8) : World :=
  { world with host := { world.host with console := world.host.console.append bytes } }

def blank (first : Bool) : List UInt8 := if first then [] else [32]

def World.spaced (world : World) (first : Bool) : World := if first then world else world.wrote #[32]

def spacing (first : Bool) : List Host.Effect := if first then [] else [.wrote #[32]]

/-- How arguments are printed, with the bytes that this writes and everything that it makes the host do. Each
of them is written once, in order: the bytes of its text follow what was printed on the way to it, and an
argument without a text has no bytes of its own. -/
inductive Prints (clock : Clock) (text : α → Array UInt8) (coerce : Value → Conduct α) :
    Bool → List Value → World → List UInt8 → List Host.Effect → World → Prop
  | done (first : Bool) (world : World) : Prints clock text coerce first [] world [] [] world
  | written (first : Bool) (value : Value) (rest : List Value) (before between after : World) (result : α)
    (nested effects : List Host.Effect) (bytes : List UInt8)
    (told : Tells clock (coerce value).run (before.spaced first) (some result) between nested)
    (goesOn : Prints clock text coerce false rest (between.wrote (text result)) bytes effects after) :
    Prints clock text coerce first (value :: rest) before
      (blank first ++ ((coerce value).printed clock (before.spaced first).machine (before.spaced first).host ++
        ((text result).toList ++ bytes)))
      (spacing first ++ (nested ++ (.wrote (text result) :: effects))) after
  | skipped (first : Bool) (value : Value) (rest : List Value) (before between after : World)
    (nested effects : List Host.Effect) (bytes : List UInt8)
    (told : Tells clock (coerce value).run (before.spaced first) none between nested)
    (goesOn : Prints clock text coerce false rest between bytes effects after) :
    Prints clock text coerce first (value :: rest) before
      (blank first ++
        ((coerce value).printed clock (before.spaced first).machine (before.spaced first).host ++ bytes))
      (spacing first ++ (nested ++ effects)) after

section

variable (clock : Clock)

theorem runs_write (bytes : Array UInt8) (before : World) :
    Runs clock (ask (.write bytes)) before (.value ()) (before.wrote bytes) [.wrote bytes] :=
  runs_ask clock (.write bytes) before

section

variable (text : α → Array UInt8) (coerce : Value → Conduct α)

theorem exists_prints (values : List Value) (first : Bool) (before : World) :
    ∃ bytes effects after, Prints clock text coerce first values before bytes effects after := by
  induction values generalizing first before with
  | nil => exact ⟨[], [], before, .done first before⟩
  | cons value rest ih =>
    obtain ⟨found, between, nested, told⟩ := exists_tells clock _ (coerce value).docile_run (before.spaced first)
    cases found with
    | some result =>
      obtain ⟨bytes, effects, after, goesOn⟩ := ih false (between.wrote (text result))
      exact ⟨_, _, after, .written first value rest before between after result nested effects bytes told goesOn⟩
    | none =>
      obtain ⟨bytes, effects, after, goesOn⟩ := ih false between
      exact ⟨_, _, after, .skipped first value rest before between after nested effects bytes told goesOn⟩

theorem written_spacing (first : Bool) : Host.written (spacing first) = blank first := by cases first <;> rfl

theorem Prints.written_eq (first : Bool) (values : List Value) (before after : World) (bytes : List UInt8)
    (effects : List Host.Effect) (prints : Prints clock text coerce first values before bytes effects after) :
    Host.written effects = bytes := by
  induction prints with
  | done first world => rfl
  | written first value rest before between after result nested effects bytes told goesOn ih =>
    rw [Host.written_append, Host.written_append, written_spacing, ← Conduct.output_run, Host.output, told.does,
      ← ih]
    rfl
  | skipped first value rest before between after nested effects bytes told goesOn ih =>
    rw [Host.written_append, Host.written_append, written_spacing, ← Conduct.output_run, Host.output, told.does,
      ← ih]

variable (write : Value → Execution (Array UInt8))

theorem runs_printItems_cons (value : Value) (rest : List Value) (first : Bool) (before after : World)
    (effects : List Host.Effect)
    (goesOn : Runs clock (quietly (write value) >>= offered write rest) (before.spaced first) (.value ()) after
      effects) :
    Runs clock (printItems write (value :: rest) first) before (.value ()) after (spacing first ++ effects) := by
  rw [printItems_cons]
  cases first with
  | true => exact goesOn
  | false => exact runs_bind clock _ _ before _ after () _ _ effects (runs_write clock #[32] before) goesOn

theorem Prints.runs (first : Bool) (values : List Value) (before after : World) (bytes : List UInt8)
    (effects : List Host.Effect) (prints : Prints clock text coerce first values before bytes effects after)
    (spelled : ∀ value ∈ values, ∀ before found after nested,
      Tells clock (coerce value).run before found after nested →
      Runs clock (quietly (write value)) before (.value (found.map text)) after nested) :
    Runs clock (printItems write values first) before (.value ()) after effects := by
  induction prints with
  | done first world => exact runs_pure clock () world
  | written first value rest before between after result nested effects bytes told goesOn ih =>
    have later := ih fun other member => spelled other (List.mem_cons_of_mem value member)
    refine runs_printItems_cons clock write value rest first before after _ ?_
    refine runs_bind clock _ _ _ between after _ _ nested _ (spelled value List.mem_cons_self _ _ _ _ told) ?_
    exact runs_bind clock _ _ between _ after () _ _ effects (runs_write clock (text result) between) later
  | skipped first value rest before between after nested effects bytes told goesOn ih =>
    have later := ih fun other member => spelled other (List.mem_cons_of_mem value member)
    refine runs_printItems_cons clock write value rest first before after _ ?_
    exact runs_bind clock _ _ _ between after _ _ nested effects (spelled value List.mem_cons_self _ _ _ _ told)
      later

theorem Prints.call (values : List Value) (before after : World) (bytes : List UInt8)
    (effects : List Host.Effect) (prints : Prints clock text coerce true values before bytes effects after)
    (bound : before.host.bound = true)
    (spelled : ∀ value ∈ values, ∀ before found after nested,
      Tells clock (coerce value).run before found after nested →
      Runs clock (quietly (write value)) before (.value (found.map text)) after nested) :
    Runs clock (Primitives.printWith write values) before (.value ()) (after.wrote #[10])
      (effects ++ [.wrote #[10]]) := by
  have asked := runs_ask clock .bound before
  refine runs_then clock _ _ (printItems write values true >>= fun _ => ask (.write #[10])) before before _ _ _ []
    _ asked ?_ ?_
  · change (if before.host.bound then _ else _) = _
    rw [if_pos bound]
  · exact runs_bind clock _ _ before after _ () _ effects _ (prints.runs clock text coerce write _ _ _ _ _ _ spelled)
      (runs_write clock #[10] after)

end

theorem Conduct.printed_prints (values : List Value) (coerce : Value → Conduct (Array UInt8)) (next : Conduct α)
    (before after : World) (bytes : List UInt8) (effects : List Host.Effect) (bound : before.host.bound = true)
    (prints : Prints clock id coerce true values before bytes effects after) :
    (Conduct.prints values coerce next).printed clock before.machine before.host =
      bytes ++ 10 :: next.printed clock (after.wrote #[10]).machine (after.wrote #[10]).host := by
  have called : Runs clock (Conduct.printing values coerce) before (.value ()) (after.wrote #[10])
      (effects ++ [.wrote #[10]]) := by
    refine prints.call clock id coerce _ values before after bytes effects bound ?_
    intro value member _ found _ _ told
    rw [Option.map_id]
    exact told.quietly
  rw [Conduct.printed, Host.output, called.does, called.ends, Host.written_append,
    prints.written_eq clock id coerce, List.append_assoc]
  rfl

/-- A call of `print` writes its arguments, and comes to its end, whatever the code does that turns them into
texts. Between two arguments there is a blank, also if one of them has no text; what is printed on the way to a
text stands before it; each argument is asked for its text once, in order, whether there is room left or not.
What the calls inside of an argument's code print is read off their own arguments in the same way. In the end
the console holds as much of all this as fits after what was written earlier. That every write finds a console
which holds a start of the same bytes, also the writes inside of an argument's code, is all that there is to
see of nobody else being at work on the buffer. -/
theorem print_writes_arguments [Surface] (values : List Value) (coerce : Value → Conduct Units) (before : World)
    (earlier : List UInt8) (spelled : ∀ value ∈ values, Surface.toUnits value = (coerce value).run)
    (bound : before.host.bound = true) (holds : before.host.console.Holds earlier) :
    (∃ bytes effects after,
      Prints clock Units.toBytes coerce true values before bytes effects after ∧
      Runs clock (Primitives.printWith scriptBytes values) before (.value ()) (after.wrote #[10])
        (effects ++ [.wrote #[10]]) ∧
      Host.written (effects ++ [.wrote #[10]]) = bytes ++ [10] ∧
      (after.wrote #[10]).host.console.limit = before.host.console.limit ∧
      (after.wrote #[10]).host.console.Holds (earlier ++ (bytes ++ [10])) ∧
      ∀ met, Host.Meets clock (Primitives.printWith scriptBytes values before.machine) before.host met →
        ∃ sofar, sofar <+: bytes ++ [10] ∧ met.console.Holds (earlier ++ sofar)) ∧
    ∀ (inner : List Value) (write : Value → Conduct (Array UInt8)) (next : Conduct Units) (start : World),
      start.host.bound = true →
      ∃ bytes effects finish, Prints clock id write true inner start bytes effects finish ∧
        (Conduct.prints inner write next).printed clock start.machine start.host =
          bytes ++ 10 :: next.printed clock (finish.wrote #[10]).machine (finish.wrote #[10]).host := by
  refine ⟨?_, fun inner write next start within => ?_⟩
  · obtain ⟨bytes, effects, after, prints⟩ := exists_prints clock Units.toBytes coerce values true before
    have called : Runs clock (Primitives.printWith scriptBytes values) before (.value ()) (after.wrote #[10])
        (effects ++ [.wrote #[10]]) := by
      refine prints.call clock Units.toBytes coerce scriptBytes values before after bytes effects bound ?_
      intro value member start found finish nested told
      rw [← spelled value member] at told
      exact (told.map clock _ Units.toBytes).quietly
    have bytesOf : Host.written (effects ++ [.wrote #[10]]) = bytes ++ [10] := by
      rw [Host.written_append, prints.written_eq clock Units.toBytes coerce]
      rfl
    have output : Host.output clock (Primitives.printWith scriptBytes values before.machine) before.host =
        bytes ++ [10] := (congrArg Host.written called.does).trans bytesOf
    refine ⟨bytes, effects, after, prints, called, bytesOf, ?_, ?_, fun met meets => ?_⟩
    · have limit := Host.converse_limit clock (Primitives.printWith scriptBytes values before.machine) before.host
      rwa [called.ends] at limit
    · have held := Host.converse_holds clock (Primitives.printWith scriptBytes values before.machine) before.host
        earlier holds
      rwa [called.ends, output] at held
    · rw [← output]
      exact Host.meets_holds clock _ _ met earlier meets holds
  · obtain ⟨bytes, effects, finish, prints⟩ := exists_prints clock id write inner true start
    exact ⟨bytes, effects, finish, prints,
      Conduct.printed_prints clock inner write next start finish bytes effects within prints⟩

end

def talkative : Behaviour where
  program _ := .returns .undefined
  toUnits
    | .text content => .returns content
    | .integer _ =>
      .prints [.text #[105], .null] (fun _ => .returns #[105]) (.fetches true (.returns "x") (.returns ("GET", none))
        (fun _ => .returns .null) fun _ => .returns #[111])
    | _ => .throws .undefined
  get _ _ := .returns .undefined
  isArray _ := .returns false
  lengthOf _ := .returns 0
  define _ _ := .returns ()

def mixedArguments : List Value := [.text #[97], .null, .integer 7, .text #[0xD800]]

example :
    Host.output Sandbox.stillClock
        (@Primitives.printWith (@scriptBytes talkative.runtime.toSurface) mixedArguments narrowWorld.machine)
        narrowWorld.host =
      [97, 32, 32, 105, 32, 105, 10, 111, 32, 0xED, 0xA0, 0x80, 10] := by
  rfl

/-- Texts, one of them half of a pair, and between them a value that cannot be written and one whose code
prints, with room for less than half of it all. -/
theorem print_mixed_arguments :
    (∀ value ∈ mixedArguments,
      talkative.runtime.toSurface.toUnits value = (talkative.toUnits value).run) ∧
    narrowWorld.host.bound = true ∧ narrowWorld.host.console.Holds [] ∧
    ∃ bytes effects after,
      Prints Sandbox.stillClock Units.toBytes talkative.toUnits true mixedArguments narrowWorld bytes effects after ∧
      Runs Sandbox.stillClock (@Primitives.printWith (@scriptBytes talkative.runtime.toSurface) mixedArguments)
        narrowWorld (.value ()) (after.wrote #[10]) (effects ++ [.wrote #[10]]) ∧
      (after.wrote #[10]).host.console.Holds ([] ++ (bytes ++ [10])) := by
  have spelled : ∀ value ∈ mixedArguments,
      talkative.runtime.toSurface.toUnits value = (talkative.toUnits value).run := fun _ _ => rfl
  have holds : narrowWorld.host.console.Holds [] := Console.holds_empty 4
  obtain ⟨⟨bytes, effects, after, prints, called, -, -, held, -⟩, -⟩ :=
    @print_writes_arguments Sandbox.stillClock talkative.runtime.toSurface mixedArguments talkative.toUnits
      narrowWorld [] spelled rfl holds
  exact ⟨spelled, rfl, holds, bytes, effects, after, prints, called, held⟩

end ScriptSandbox
