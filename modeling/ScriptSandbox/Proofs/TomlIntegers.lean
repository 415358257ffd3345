import Mathlib
import ScriptSandbox.Config.Document

/-!
What is read from a document is small: every integer in it fits a word. The reader refuses other integers where it
meets them, and what it builds of its values is made of nothing else; so this holds of the whole document, and of
the limits of a configuration that is read from it.
-/

namespace ScriptSandbox

namespace Toml

/-! ### Values -/

inductive Fits : Toml → Prop
  | integer (n : Int) (fits : fitsWord n = true) : Fits (.integer n)
  | float (x : Float) : Fits (.float x)
  | boolean (b : Bool) : Fits (.boolean b)
  | text (content : String) : Fits (.text content)
  | datetime : Fits .datetime
  | array (items : List Toml) (fit : ∀ item ∈ items, Fits item) : Fits (.array items)
  | table (entries : List (String × Toml)) (fit : ∀ entry ∈ entries, Fits entry.2) : Fits (.table entries)

inductive Node.Fits : Node → Prop
  | leaf (value : Toml) (fits : value.Fits) : Fits (.leaf value)
  | table (origin : Origin) (entries : List (String × Node)) (fit : ∀ entry ∈ entries, Fits entry.2) :
    Fits (.table origin entries)
  | tables (rows : List (List (String × Node))) (fit : ∀ row ∈ rows, ∀ entry ∈ row, Fits entry.2) :
    Fits (.tables rows)

def Careful (item : Reading Toml) : Prop := ∀ input found rest, item input = some (found, rest) → found.Fits

theorem fits_basedInteger? (base : Nat) (digits : List Char) (found : Toml)
    (read : basedInteger? base digits = some found) : found.Fits := by
  simp only [basedInteger?, Option.bind_eq_bind, Option.bind_eq_some_iff, Option.ite_none_right_eq_some,
    Option.some.injEq] at read
  obtain ⟨kept, -, fits, rfl⟩ := read
  exact .integer _ fits

theorem fits_number? (text : List Char) (found : Toml) (read : number? text = some found) : found.Fits := by
  unfold number? at read
  split at read
  · exact fits_basedInteger? 16 _ found read
  · exact fits_basedInteger? 8 _ found read
  · exact fits_basedInteger? 2 _ found read
  · split at read
    split at read
    · cases read
    · simp only [Option.ite_none_right_eq_some, Option.some.injEq] at read
      obtain ⟨fits, rfl⟩ := read
      exact .integer _ fits
    · obtain rfl := Option.some.inj read
      exact .float _

theorem fits_datetime? (input rest : List Char) (found : Toml) (read : datetime? input = some (found, rest)) :
    found.Fits := by
  have same : found = .datetime := by
    unfold datetime? at read
    split at read
    · dsimp only at read
      split at read
      · cases read
        rfl
      · split at read
        · cases read
        · obtain ⟨_, -, same⟩ := Option.map_eq_some_iff.1 read
          cases same
          rfl
    · obtain ⟨_, -, same⟩ := Option.map_eq_some_iff.1 read
      cases same
      rfl
  rw [same]
  exact .datetime

theorem fits_arrayItems (item : Reading Toml) (careful : Careful item) (steps : Nat) (input rest : List Char)
    (items : List Toml) (read : arrayItems item steps input = some (items, rest)) : ∀ found ∈ items, found.Fits := by
  induction steps generalizing input items with
  | zero => cases read
  | succ steps ih =>
    rw [arrayItems] at read
    split at read
    · cases read
    · cases read
      exact nofun
    · split at read
      · cases read
      · next first _ found =>
        split at read
        · split at read
          · cases read
          · next later =>
            cases read
            exact List.forall_mem_cons.2 ⟨careful _ _ _ found, ih _ _ later⟩
        · cases read
          exact List.forall_mem_cons.2 ⟨careful _ _ _ found, nofun⟩
        · cases read

/-! ### Documents -/

namespace Node

theorem entriesToToml_eq (entries : List (String × Node)) :
    entriesToToml entries = entries.map fun entry => (entry.1, entry.2.toToml) := by
  induction entries with
  | nil => rfl
  | cons entry rest ih => rw [entriesToToml, ih, List.map_cons]

theorem rowsToToml_eq (rows : List (List (String × Node))) :
    rowsToToml rows = rows.map fun row => .table (entriesToToml row) := by
  induction rows with
  | nil => rfl
  | cons row rest ih => rw [rowsToToml, ih, List.map_cons]

theorem Fits.toToml (node : Node) (fits : node.Fits) : node.toToml.Fits := by
  induction fits with
  | leaf value fits => exact fits
  | table origin entries _ ih =>
    rw [Node.toToml, entriesToToml_eq]
    exact .table _ (List.forall_mem_map.2 ih)
  | tables rows _ ih =>
    rw [Node.toToml, rowsToToml_eq]
    refine .array _ fun item among => ?_
    obtain ⟨row, listed, rfl⟩ := List.mem_map.1 (List.mem_reverse.1 among)
    rw [entriesToToml_eq]
    exact .table _ (List.forall_mem_map.2 (ih row listed))

def AllFit (entries : List (String × Node)) : Prop := ∀ entry ∈ entries, entry.2.Fits

theorem AllFit.append (entries more : List (String × Node)) (fit : AllFit entries) (alsoFit : AllFit more) :
    AllFit (entries ++ more) := List.forall_mem_append.2 ⟨fit, alsoFit⟩

theorem allFit_single (key : String) (node : Node) (fits : node.Fits) : AllFit [(key, node)] :=
  List.forall_mem_singleton.2 fits

theorem AllFit.lookup (entries : List (String × Node)) (fit : AllFit entries) (key : String) (node : Node)
    (found : entries.lookup key = some node) : node.Fits := by
  obtain ⟨before, after, rfl, -⟩ := List.lookup_eq_some_iff.1 found
  exact fit (key, node) (List.mem_append_right before List.mem_cons_self)

theorem AllFit.put (key : String) (node : Node) (fits : node.Fits) (entries : List (String × Node))
    (fit : AllFit entries) : AllFit (put key node entries) := by
  induction entries with
  | nil => exact allFit_single key node fits
  | cons entry rest ih =>
    obtain ⟨first, others⟩ := List.forall_mem_cons.1 fit
    rw [Node.put]
    split
    · exact List.forall_mem_cons.2 ⟨fits, others⟩
    · exact List.forall_mem_cons.2 ⟨first, ih others⟩

/-- A change at the end of a path keeps the whole document as the change keeps the table there. -/
theorem AllFit.descend (viaKey : Bool) (change : Origin → List (String × Node) → Option (α × List (String × Node)))
    (holds : α → Prop)
    (keeps : ∀ origin entries found after, AllFit entries → change origin entries = some (found, after) →
      AllFit after ∧ holds found)
    (path : List String) (origin : Origin) (entries : List (String × Node)) (fit : AllFit entries) (found : α)
    (after : List (String × Node)) (changed : descend viaKey change path origin entries = some (found, after)) :
    AllFit after ∧ holds found := by
  induction path generalizing origin entries found after with
  | nil => exact keeps origin entries found after fit changed
  | cons key path ih =>
    -- The path goes on in a node that is there already, or in a new table without entries.
    have start : ((entries.lookup key).getD (.table (if viaKey then .dotted else .passing) [])).Fits := by
      cases known : entries.lookup key with
      | none => exact .table _ [] nofun
      | some node => exact fit.lookup entries key node known
    rw [Node.descend] at changed
    dsimp only at changed
    split at changed
    · cases changed
    · cases changed
    · next row rows same =>
      rw [same] at start
      cases start with
      | tables _ each =>
        obtain ⟨⟨_, inner⟩, descended, whole⟩ := Option.map_eq_some_iff.1 changed
        cases whole
        obtain ⟨here, others⟩ := List.forall_mem_cons.1 each
        obtain ⟨fits, found⟩ := ih .header row here _ inner descended
        exact ⟨AllFit.put key _ (.tables _ (List.forall_mem_cons.2 ⟨fits, others⟩)) entries fit, found⟩
    · next origin inner same =>
      rw [same] at start
      cases start with
      | table _ _ each =>
        split at changed
        · cases changed
        · obtain ⟨⟨_, later⟩, descended, whole⟩ := Option.map_eq_some_iff.1 changed
          cases whole
          obtain ⟨fits, found⟩ := ih origin inner each _ later descended
          exact ⟨AllFit.put key _ (.table _ _ fits) entries fit, found⟩

theorem AllFit.define (path : List String) (key : String) (value : Toml) (fits : value.Fits)
    (entries : List (String × Node)) (fit : AllFit entries) (after : List (String × Node))
    (defined : define path key value entries = some after) : AllFit after := by
  obtain ⟨⟨_, _⟩, descended, rfl⟩ := Option.map_eq_some_iff.1 defined
  refine (AllFit.descend true _ (fun _ => True) ?_ path .header entries fit _ _ descended).1
  intro origin entries found after fit changed
  split at changed
  · cases changed
  · split at changed
    · cases changed
    · cases changed
      exact ⟨fit.append _ _ (allFit_single key _ (.leaf value fits)), trivial⟩

end Node

open Node

theorem fits_inlineEntries (item : Reading Toml) (careful : Careful item) (steps : Nat) (input rest : List Char)
    (done entries : List (String × Node)) (fit : AllFit done)
    (read : inlineEntries item steps done input = some (entries, rest)) : AllFit entries := by
  induction steps generalizing input done with
  | zero => cases read
  | succ steps ih =>
    rw [inlineEntries] at read
    split at read
    · split at read
      · next found =>
        split at read
        · cases read
        · next defined =>
          have later := fit.define _ _ _ (careful _ _ _ found) _ _ defined
          split at read
          · exact ih _ _ later read
          · cases read
            exact later
          · cases read
      · cases read
    · cases read

theorem fits_toTable (entries : List (String × Node)) (fit : AllFit entries) :
    ∀ entry ∈ entriesToToml entries, entry.2.Fits := by
  rw [entriesToToml_eq]
  exact List.forall_mem_map.2 fun entry among => (fit entry among).toToml

theorem careful_value (depth : Nat) : Careful (value depth) := by
  -- Only arrays and inline tables ask for the values of a smaller depth.
  induction depth using Nat.strongRecOn with
  | ind depth ih =>
    intro input found rest read
    unfold value at read
    split at read
    · obtain ⟨_, -, same⟩ := Option.map_eq_some_iff.1 read
      cases same
      exact .text _
    · obtain ⟨_, -, same⟩ := Option.map_eq_some_iff.1 read
      cases same
      exact .text _
    · split at read
      · cases read
      · obtain ⟨_, items, same⟩ := Option.map_eq_some_iff.1 read
        cases same
        exact .array _ (fits_arrayItems _ (ih _ (Nat.lt_succ_self _)) _ _ _ _ items)
    · split at read
      · cases read
      · split at read
        · cases read
          exact .table [] nofun
        · obtain ⟨_, entries, same⟩ := Option.map_eq_some_iff.1 read
          cases same
          exact .table _ (fits_toTable _ (fits_inlineEntries _ (ih _ (Nat.lt_succ_self _)) _ _ _ [] _ nofun entries))
    · cases read
      exact .boolean true
    · cases read
      exact .boolean false
    · split at read
      · next dated =>
        cases read
        exact fits_datetime? _ _ _ dated
      · obtain ⟨number, numbered, same⟩ := Option.map_eq_some_iff.1 read
        cases same
        exact fits_number? _ _ numbered

/-! ### Statements -/

def Statement.Fits : Statement → Prop
  | .entry _ value => value.Fits
  | _ => True

theorem fits_statement (input rest : List Char) (found : Statement) (read : statement input = some (found, rest)) :
    found.Fits := by
  unfold statement at read
  split at read
  · split at read
    · obtain ⟨_, -, same⟩ := Option.map_eq_some_iff.1 read
      cases same
      trivial
    · cases read
  · split at read
    · obtain ⟨_, -, same⟩ := Option.map_eq_some_iff.1 read
      cases same
      trivial
    · cases read
  · split at read
    · split at read
      · next valued =>
        obtain ⟨_, -, same⟩ := Option.map_eq_some_iff.1 read
        cases same
        exact careful_value _ _ _ _ valued
      · cases read
    · cases read

theorem fits_statements (steps : Nat) (input : List Char) (found : List Statement)
    (read : statements steps input = some found) : ∀ part ∈ found, part.Fits := by
  induction steps generalizing input found with
  | zero => cases read
  | succ steps ih =>
    rw [statements] at read
    split at read
    · cases read
    · split at read
      · cases read
        exact nofun
      · split at read
        · cases read
        · next first _ here =>
          obtain ⟨more, later, rfl⟩ := Option.map_eq_some_iff.1 read
          exact List.forall_mem_cons.2 ⟨fits_statement _ _ _ here, ih _ _ later⟩

/-! ### Building -/

theorem fits_finish (root : List (String × Node)) (fit : AllFit root) (part : Section) (partFits : AllFit part.entries)
    (after : List (String × Node)) (finished : finish root part = some after) : AllFit after := by
  unfold finish at finished
  split at finished
  · cases finished
    exact partFits
  · next path key _ =>
    obtain ⟨⟨_, _⟩, descended, rfl⟩ := Option.map_eq_some_iff.1 finished
    refine (AllFit.descend false _ (fun _ => True) ?_ path .header root fit _ _ descended).1
    intro origin entries found after fit changed
    split at changed
    · split at changed
      · next rows known =>
        cases changed
        cases fit.lookup entries key _ known with
        | tables _ each =>
          exact ⟨fit.put key _ (.tables _ (List.forall_mem_cons.2 ⟨partFits, each⟩)) entries, trivial⟩
      · cases changed
        exact ⟨fit.append _ _ (allFit_single key _ (.tables _ (List.forall_mem_singleton.2 partFits))), trivial⟩
      · cases changed
    · cases changed
      exact ⟨fit.append _ _ (allFit_single key _ (.table _ _ partFits)), trivial⟩

theorem fits_openTable (root : List (String × Node)) (fit : AllFit root) (path : List String)
    (after : List (String × Node)) (part : Section) (opened : openTable root path = some (after, part)) :
    AllFit after ∧ AllFit part.entries := by
  simp only [openTable, Option.bind_eq_bind, Option.bind_eq_some_iff, Option.pure_def, Option.some.injEq] at opened
  obtain ⟨⟨parents, key⟩, -, ⟨inner, changed⟩, descended, same⟩ := opened
  cases same
  refine AllFit.descend false _ AllFit ?_ parents .header root fit inner _ descended
  intro origin entries found after fit changed
  split at changed
  · cases changed
    exact ⟨fit, nofun⟩
  · next known =>
    cases changed
    cases fit.lookup entries key _ known with
    | table _ _ each => exact ⟨fun entry among => fit entry (List.mem_of_mem_filter among), each⟩
  · cases changed

theorem fits_openRow (root : List (String × Node)) (fit : AllFit root) (path : List String)
    (after : List (String × Node)) (part : Section) (opened : openRow root path = some (after, part)) :
    AllFit after ∧ AllFit part.entries := by
  simp only [openRow, Option.bind_eq_bind, Option.bind_eq_some_iff, Option.pure_def, Option.some.injEq] at opened
  obtain ⟨⟨parents, key⟩, -, ⟨_, changed⟩, descended, same⟩ := opened
  cases same
  refine ⟨(AllFit.descend false _ (fun _ => True) ?_ parents .header root fit _ _ descended).1, nofun⟩
  intro origin entries found after fit changed
  split at changed
  · cases changed
    exact ⟨fit.append _ _ (allFit_single key _ (.tables [] nofun)), trivial⟩
  · cases changed
    exact ⟨fit, trivial⟩
  · cases changed

theorem fits_build (found : List Statement) (parts : ∀ part ∈ found, part.Fits) (root : List (String × Node))
    (fit : AllFit root) (part : Section) (partFits : AllFit part.entries) (after : List (String × Node))
    (built : build found root part = some after) : AllFit after := by
  induction found generalizing root part with
  | nil => exact fits_finish root fit part partFits after built
  | cons first rest ih =>
    obtain ⟨here, later⟩ := List.forall_mem_cons.1 parts
    cases first with
    | entry path value =>
      rw [build] at built
      split at built
      · cases built
      · split at built
        · cases built
        · next defined => exact ih later root fit _ (partFits.define _ _ value here _ _ defined) built
    | table path =>
      rw [build] at built
      split at built
      · cases built
      · next opened =>
        obtain ⟨finished, ended, opens⟩ := Option.bind_eq_some_iff.1 opened
        obtain ⟨fits, fresh⟩ := fits_openTable finished (fits_finish root fit part partFits _ ended) path _ _ opens
        exact ih later _ fits _ fresh built
    | row path =>
      rw [build] at built
      split at built
      · cases built
      · next opened =>
        obtain ⟨finished, ended, opens⟩ := Option.bind_eq_some_iff.1 opened
        obtain ⟨fits, fresh⟩ := fits_openRow finished (fits_finish root fit part partFits _ ended) path _ _ opens
        exact ih later _ fits _ fresh built

/-- Every integer in a document fits a word. -/
theorem fits_parse? (text : String) (entries : List (String × Toml)) (read : parse? text = some entries) :
    ∀ entry ∈ entries, entry.2.Fits := by
  simp only [parse?, Option.bind_eq_bind, Option.bind_eq_some_iff, Option.pure_def, Option.some.injEq] at read
  obtain ⟨found, listed, root, built, rfl⟩ := read
  exact fits_toTable root (fits_build found (fits_statements _ _ found listed) [] nofun ⟨[], false, []⟩ nofun root
    built)

end Toml

/-! ### Configurations -/

structure Limits.Writable (limits : Limits) : Prop where
  memory : limits.memoryBytes ≤ Config.greatestInteger
  timeout : Toml.fitsWord limits.timeoutMs = true
  console : limits.consoleBytes ≤ Config.greatestInteger

namespace Config

open Toml

theorem writable_default : Limits.default.Writable := ⟨by decide, by decide, by decide⟩

theorem foldlM_keeps (step : α → β → Reading α) (holds : α → Prop) (items : List β)
    (keeps : ∀ item ∈ items, ∀ before after, holds before → step before item = .ok after → holds after)
    (before after : α) (start : holds before) (read : items.foldlM step before = .ok after) : holds after := by
  induction items generalizing before with
  | nil =>
    cases read
    exact start
  | cons item rest ih =>
    obtain ⟨here, others⟩ := List.forall_mem_cons.1 keeps
    rw [List.foldlM_cons, Mismatch.bind_eq_ok] at read
    obtain ⟨next, first, later⟩ := read
    exact ih others next (here before next start first) later

theorem expectFields_keeps (name : String) (fields : List String) (set : String → Toml → α → Reading α)
    (holds : α → Prop)
    (keeps : ∀ key value before after, value.Fits → holds before → set key value before = .ok after → holds after)
    (before after : α) (start : holds before) (value : Toml) (fits : value.Fits)
    (read : expectFields name fields set before value = .ok after) : holds after := by
  unfold expectFields at read
  split at read
  · cases fits with
    | table entries each =>
      exact foldlM_keeps _ holds _ (fun entry among _ _ => keeps entry.1 entry.2 _ _ (each entry among)) _ _ start
        read
  · cases fits with
    | array items each =>
      refine foldlM_keeps _ holds _ (fun entry among _ _ => keeps entry.1 entry.2 _ _ ?_) _ _ start read
      exact each entry.2 (List.of_mem_zip among).2
  · cases read
    exact start
  · cases read

theorem le_of_expectSize (value : Toml) (fits : value.Fits) (size : Nat) (read : expectSize value = .ok size) :
    size ≤ greatestInteger := by
  unfold expectSize at read
  split at read
  · split at read
    · cases read
      cases fits with
      | integer n fits =>
        simp only [fitsWord, Bool.and_eq_true, decide_eq_true_eq] at fits
        simp only [greatestInteger]
        omega
    · cases read
  · cases read

theorem fits_of_expectInteger (value : Toml) (fits : value.Fits) (n : Int) (read : expectInteger value = .ok n) :
    fitsWord n = true := by
  unfold expectInteger at read
  split at read
  · cases read
    cases fits with
    | integer n fits => exact fits
  · cases read

theorem setLimit_writable (key : String) (value : Toml) (before after : Limits) (fits : value.Fits)
    (writable : before.Writable) (read : setLimit key value before = .ok after) : after.Writable := by
  unfold setLimit at read
  split at read
  · obtain ⟨size, found, same⟩ := (Mismatch.bind_eq_ok _ _ _).1 read
    cases same
    exact { writable with memory := le_of_expectSize value fits size found }
  · obtain ⟨n, found, same⟩ := (Mismatch.bind_eq_ok _ _ _).1 read
    cases same
    exact { writable with timeout := fits_of_expectInteger value fits n found }
  · obtain ⟨size, found, same⟩ := (Mismatch.bind_eq_ok _ _ _).1 read
    cases same
    exact { writable with console := le_of_expectSize value fits size found }
  · cases read
    exact writable

theorem setPart_writable (key : String) (value : Toml) (before after : Config) (fits : value.Fits)
    (writable : before.limits.Writable) (read : setPart key value before = .ok after) : after.limits.Writable := by
  unfold setPart at read
  split at read
  · obtain ⟨limits, found, same⟩ := (Mismatch.bind_eq_ok _ _ _).1 read
    cases same
    exact expectFields_keeps _ _ setLimit Limits.Writable setLimit_writable _ _ writable_default value fits found
  · obtain ⟨http, -, same⟩ := (Mismatch.bind_eq_ok _ _ _).1 read
    cases same
    exact writable
  · cases read
    exact writable

theorem read_writable (text : String) (config : Config) (accepted : read text = .ok config) :
    config.limits.Writable := by
  obtain ⟨entries, parsed, described, -⟩ := (read_eq_ok text config).1 accepted
  have fit := fits_parse? text entries parsed
  exact foldlM_keeps _ (fun config => config.limits.Writable) entries
    (fun entry among _ _ => setPart_writable entry.1 entry.2 _ _ (fit entry among)) _ _ writable_default described

end Config

end ScriptSandbox
