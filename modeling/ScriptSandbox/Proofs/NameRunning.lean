import ScriptSandbox.Proofs.NameReading
import ScriptSandbox.Proofs.Refusal
import ScriptSandbox.Proofs.Turns

/-!
Running a script that is one name and nothing else. Its code reads the name, keeps the value as that of the script, and
ends; no call is made and nothing changes on the way.
-/

namespace ScriptSandbox

open Script Script.Execution

/-! ### The key of a name -/

theorem unit_of_start (c : Char) (starts : Text.isNameStart c = true) : ∃ unit rest,
    Units.ofCode c.toNat = unit :: rest ∧ ¬ (48 ≤ unit.toNat ∧ unit.toNat ≤ 57) := by
  by_cases small : c.toNat < 0x10000
  · refine ⟨UInt16.ofNat c.toNat, [], by rw [Units.ofCode, if_pos small, Nat.toUInt16_eq], ?_⟩
    rw [UInt16.toNat_ofNat_of_lt' small]
    rintro ⟨least, greatest⟩
    refine Token.start_of_name c starts c.toNat ?_ rfl
    simp only [Token.otherStarts, List.mem_cons, List.not_mem_nil, or_false]
    omega
  · have range := Text.toNat_cases c
    have bound : 0xD800 + (c.toNat - 0x10000) / 0x400 < 0x10000 := by omega
    refine ⟨UInt16.ofNat (0xD800 + (c.toNat - 0x10000) / 0x400), _,
      by rw [Units.ofCode, if_neg small, Nat.toUInt16_eq], ?_⟩
    rw [UInt16.toNat_ofNat_of_lt' bound]
    omega

theorem key_of_name (name : String) (isName : Grammar.IsName name) :
    Key.ofString name = .name (Units.ofString name) := by
  obtain ⟨first, rest, chars, starts, -⟩ := isName.starts
  obtain ⟨unit, units, same, apart⟩ := unit_of_start first starts
  have whole : (Units.ofString name).toList = unit :: (units ++ rest.flatMap fun c => Units.ofCode c.toNat) := by
    rw [Units.toList_ofString, chars, List.flatMap_cons, same, List.cons_append]
  have digit : (48 ≤ unit && unit ≤ 57) = false := by
    rw [Bool.eq_false_iff, ne_eq, Bool.and_eq_true, decide_eq_true_iff, decide_eq_true_iff, UInt16.le_iff_toNat_le,
      UInt16.le_iff_toNat_le]
    exact apart
  have some_ : ¬ (Units.ofString name)[0]? = some 48 := by
    rw [← Array.getElem?_toList, whole]
    intro zero
    cases zero
    exact apart (by decide)
  have none_ : Key.indexOf? (Units.ofString name) = none := by
    unfold Key.indexOf?
    split
    · rfl
    · rw [if_neg (by simpa using some_), ← Array.all_toList, whole, List.all_cons, digit]
      rfl
  rw [Key.ofString, Key.ofUnits, none_]

theorem clean_of_name (name : String) (isName : Grammar.IsName name) : name.contains '\x00' = false := by
  obtain ⟨first, rest, chars, starts, rests⟩ := isName.starts
  rw [String.contains_char_eq, decide_eq_false_iff_not, chars, List.mem_cons, not_or]
  constructor
  · rintro rfl
    exact absurd starts (by decide)
  · intro among
    exact absurd (rests _ among) (by decide)

theorem isEmpty_of_name (name : String) (isName : Grammar.IsName name) : name.isEmpty = false := by
  obtain ⟨first, rest, chars, -⟩ := isName.starts
  rw [Bool.eq_false_iff, ne_eq, String.isEmpty_iff]
  rintro rfl
  cases chars

/-! ### Its code -/

namespace Script

def nameCode (name : String) : Code :=
  { name := "<eval>", kind := .ordinary, generator := false, async := false, strict := true, arity := 0, source := #[]
    slots := 1, cells := 0
    instructions := #[.readGlobal name (.ofString name), .write (.slot 0), .read (.slot 0), .result]
    children := #[], captures := #[], sites := #[], scopes := #[], isClass := false }

theorem Compile.bind_ok (first : Build α) (next : α → Build β) (state after : State) (result : α)
    (built : first state = .ok (result, after)) : (first >>= next) state = next result after := by
  change (first state).bind _ = _
  rw [built]
  rfl

theorem Compile.readName_global (name : String) (other : name ≠ "undefined") (state : State) (around : state.outer = [])
    (blocks : state.draft.blocks = [[]]) : readName name state = emit (.readGlobal name (.ofString name)) state := by
  obtain ⟨functions, draft, outer⟩ := state
  obtain rfl : outer = [] := around
  have resolved : resolve name { functions, draft, outer := [] } = .ok (none, { functions, draft, outer := [] }) := by
    have found : resolveIn [draft] name = (none, [draft]) := by
      have blocks' : draft.blocks = [[]] := blocks
      simp only [resolveIn, blocks', findIn, List.lookup]
    unfold resolve
    rw [bind_ok get _ { functions, draft, outer := [] } { functions, draft, outer := [] } _ rfl]
    dsimp only
    rw [found]
    rfl
  unfold readName
  rw [bind_ok _ _ _ _ _ resolved]
  dsimp only
  rw [beq_false_of_ne other]
  rfl

theorem compile_name (name : String) (other : name ≠ "undefined") :
    (Grammar.nameProgram name).compile .realm [] =
      .ok (nameCode name, { lexicals := [], varNames := [], functions := [] }) := by
  let draft : Compile.Draft :=
    { Compile.Draft.create (Compile.programInfo (Grammar.nameProgram name)) "<eval>" with
      blocks := [[]], slots := 1, completion := some 0 }
  let read : Compile.State := { functions := #[], draft, outer := [] }
  let written : Compile.State :=
    { read with draft := { draft with instructions := #[.readGlobal name (.ofString name), .write (.slot 0)] } }
  have expressed (depth : Nat) : @Compile.anyExpression (Compile.nested depth) (.name name) read =
      .ok ((), { read with draft := { draft with instructions := #[.readGlobal name (.ofString name)] } }) :=
    Compile.readName_global name other read rfl rfl
  have stated (depth : Nat) : @Compile.anyStatement (Compile.nested (depth + 1)) (.expression (.name name)) read =
      .ok ((), written) := by
    let _ := Compile.nested (depth + 1)
    refine (Compile.bind_ok (Compile.expression (.name name)) _ read _ () (expressed depth)).trans ?_
    rfl
  have whole : Compile.programBody (Grammar.nameProgram name) .realm
      { functions := #[], draft := { draft with slots := 0, completion := none }, outer := [] } =
      .ok ((), { written with draft := { written.draft with
        instructions := #[.readGlobal name (.ofString name), .write (.slot 0), .read (.slot 0), .result] } }) := by
    let _ := Compile.nested Compile.nesting
    have body : List.forM (Grammar.nameProgram name).body Compile.statement read = .ok (⟨⟩, written) :=
      (Compile.bind_ok (Compile.statement (.expression (.name name))) _ read written () (stated 5998)).trans rfl
    change ((List.forM (Grammar.nameProgram name).body Compile.statement >>= fun _ => _ : Compile.Build Unit) read) = _
    refine (Compile.bind_ok _ _ read written _ body).trans ?_
    rfl
  have result {β : Type} (next : Unit × Compile.State → Except String β) :=
    congrArg (fun built => Except.bind built next) whole
  have placed : (nameCode name).instructions.map (Compile.place #[]) = (nameCode name).instructions := by
    simp [nameCode, Compile.place]
  refine (result _).trans ?_
  change Except.ok ({ nameCode name with instructions := (nameCode name).instructions.map (Compile.place #[]) }, _) = _
  rw [placed]
  rfl

section

variable [Engine] [Catalog]

def nameFrame (name : String) : Frame :=
  programFrame (nameCode name) #[] Intrinsic.global.value .undefined .undefined none

theorem run_name (name : String) (value : Value) (machine : Machine)
    (reads : readGlobal name (.ofString name) true machine = .done (.value value machine)) :
    run (nameFrame name) machine = .done (.value (.returned value) machine) := by
  have performed : perform (.readGlobal name (.ofString name)) (nameFrame name) .undefined .undefined .undefined machine =
      .done (.value (.one value) machine) := by
    refine (bind_value (readGlobal name (.ofString name) true) _ machine machine value reads).trans ?_
    rfl
  have first : step (nameFrame name) [] machine =
      .done (.value (.next { nameFrame name with pc := 1, stack := #[value] } []) machine) := by
    change after (perform (.readGlobal name (.ofString name)) (nameFrame name) .undefined .undefined .undefined machine) _ _ = _
    rw [performed]
    rfl
  have second : step { nameFrame name with pc := 1, stack := #[value] } [] machine =
      .done (.value (.next { nameFrame name with pc := 2, slots := #[value] } []) machine) := rfl
  have third : step { nameFrame name with pc := 2, slots := #[value] } [] machine =
      .done (.value (.next { nameFrame name with pc := 3, slots := #[value], stack := #[value] } []) machine) := rfl
  have last : step { nameFrame name with pc := 3, slots := #[value], stack := #[value] } [] machine =
      .done (.value (.ended (.returned value)) machine) := rfl
  have looped : loop plenty (nameFrame name) [] machine = .done (.value (.returned value) machine) := by
    change loop (999999999999996 + 1 + 1 + 1 + 1) (nameFrame name) [] machine = _
    rw [loop_of_value _ _ _ _ _ _ first, proceed, loop_of_value _ _ _ _ _ _ second, proceed,
      loop_of_value _ _ _ _ _ _ third, proceed, loop_of_value _ _ _ _ _ _ last]
    rfl
  unfold run
  rw [looped]

end

end Script

theorem evaluate_name (methods : Array Method) (depth : Nat) (name : String) (isName : Grammar.IsName name)
    (other : name ≠ "undefined") (value : Value) (machine : Machine)
    (reads : @readGlobal (engine methods depth) name (.ofString name) true machine = .done (.value value machine)) :
    (interpreter methods depth).evaluate (Units.ofString name) machine = .done (.value value machine) := by
  let _ := engine methods depth
  let _ : Catalog := ⟨methods⟩
  have read := readProgram_of_ok (Units.ofString name) machine (.outside true) (Grammar.nameProgram name)
    (Grammar.parse_name _ name isName (Units.codes_ofString name))
  have compiled := compileProgram_of_ok machine (Grammar.nameProgram name) .realm [] _ (compile_name name other)
  have entered : enterProgram (Units.ofString name) true true machine = .done (.value (nameFrame name) machine) := by
    refine (bind_value _ _ machine machine _ read).trans ?_
    refine (bind_value (compileProgram (Grammar.nameProgram name) .realm []) _ machine machine _ compiled).trans ?_
    rfl
  refine (bind_value _ _ machine machine _ entered).trans ?_
  exact (bind_value _ _ machine machine _ (run_name name value machine reads)).trans rfl

end ScriptSandbox
