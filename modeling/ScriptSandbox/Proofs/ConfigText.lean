import ScriptSandbox.Proofs.Allowlist
import ScriptSandbox.Proofs.TomlIntegers
import ScriptSandbox.Proofs.TomlValues

/-!
A configuration that was read can be written, and what is written is read as the same configuration. Its document
is a list of lines, each a statement, with blank lines between them; the values of its entries are read as they
were written, whatever limits, hosts and user agent they hold.
-/

namespace ScriptSandbox

namespace Toml

/-! ### Lines -/

def Bare (name : String) : Prop := name.toList ≠ [] ∧ ∀ c ∈ name.toList, isBareKey c = true

theorem ne_of_bare (c other : Char) (bare : isBareKey c = true) (not : isBareKey other = false) : c ≠ other := by
  rintro rfl
  exact Bool.false_ne_true (not.symm.trans bare)

theorem skipBlanks_front (first : Char) (rest : List Char) (notBlank : isBlank first = false) :
    skipBlanks (first :: rest) = first :: rest :=
  List.dropWhile_cons_of_neg (by rw [notBlank]; exact Bool.false_ne_true)

theorem isBlank_of_bare (c : Char) (bare : isBareKey c = true) : isBlank c = false := by
  rw [isBlank, Bool.or_eq_false_iff, beq_eq_false_iff_ne, beq_eq_false_iff_ne]
  exact ⟨ne_of_bare c ' ' bare rfl, ne_of_bare c '\t' bare rfl⟩

def headerLine (name : String) (rest : List Char) : List Char := '[' :: (name.toList ++ ']' :: '\n' :: rest)

def entryLine (key : String) (written rest : List Char) : List Char :=
  key.toList ++ ' ' :: '=' :: ' ' :: (written ++ '\n' :: rest)

section

variable (name : String) (bare : Bare name)
include bare

theorem bare_front : ∃ first more, name.toList = first :: more ∧ isBareKey first = true := by
  obtain ⟨first, more, front⟩ := List.exists_cons_of_ne_nil bare.1
  exact ⟨first, more, front, bare.2 first (by rw [front]; exact List.mem_cons_self)⟩

theorem simpleKey_bare (mark : Char) (ends : isBareKey mark = false) (rest : List Char) :
    simpleKey (name.toList ++ mark :: rest) = some (name, mark :: rest) := by
  obtain ⟨first, more, front, firstBare⟩ := bare_front name bare
  have stops : ¬ isBareKey mark = true := by rw [ends]; exact Bool.false_ne_true
  have taken : (name.toList ++ mark :: rest).takeWhile isBareKey = name.toList := by
    rw [List.takeWhile_append_of_pos bare.2, List.takeWhile_cons_of_neg stops, List.append_nil]
  have left : (name.toList ++ mark :: rest).dropWhile isBareKey = mark :: rest := by
    rw [List.dropWhile_append_of_pos bare.2, List.dropWhile_cons_of_neg stops]
  have some_ : name.toList.isEmpty = false := List.isEmpty_eq_false_iff.2 bare.1
  unfold simpleKey
  split
  · next same =>
    rw [front] at same
    exact absurd (List.cons.inj same).1 (ne_of_bare first '"' firstBare rfl)
  · next same =>
    rw [front] at same
    exact absurd (List.cons.inj same).1 (ne_of_bare first '\'' firstBare rfl)
  · simp only [taken, left, some_, Bool.false_eq_true, if_false, String.ofList_toList]

theorem dottedKey_bare (steps : Nat) (behind : Char) (ends : isBareKey behind = false) (rest left : List Char)
    (mark : Char) (skipped : skipBlanks (behind :: rest) = mark :: left) (notPoint : mark ≠ '.') :
    dottedKey (steps + 1) (name.toList ++ behind :: rest) = some ([name], mark :: left) := by
  obtain ⟨first, more, front, firstBare⟩ := bare_front name bare
  have whole : skipBlanks (name.toList ++ behind :: rest) = name.toList ++ behind :: rest := by
    rw [front]
    exact skipBlanks_front first _ (isBlank_of_bare first firstBare)
  rw [dottedKey, whole, simpleKey_bare name bare behind ends rest]
  simp only [skipped]
  split
  · next same => exact absurd (List.cons.inj same).1 notPoint
  · rfl

theorem statement_header (rest : List Char) : statement (headerLine name rest) = some (.table [name], rest) := by
  obtain ⟨first, more, front, firstBare⟩ := bare_front name bare
  have key := dottedKey_bare name bare (name.toList ++ ']' :: '\n' :: rest).length ']' rfl ('\n' :: rest) _ ']' rfl
    (by decide)
  unfold statement headerLine
  split
  · next same =>
    rw [front] at same
    exact absurd (List.cons.inj (List.cons.inj same).2).1 (ne_of_bare first '[' firstBare rfl)
  · next same =>
    cases same
    rw [key]
    rfl
  · next other => exact absurd rfl (other _)

def Begins (written : List Char) : Prop := ∃ first more, written = first :: more ∧ isBlank first = false

omit bare in
theorem skipBlanks_begins (written rest : List Char) (begins : Begins written) :
    skipBlanks (' ' :: (written ++ rest)) = written ++ rest := by
  obtain ⟨first, more, rfl, notBlank⟩ := begins
  exact (List.dropWhile_cons_of_pos rfl).trans (skipBlanks_front first _ notBlank)

theorem statement_entry (written rest : List Char) (begins : Begins written) (found : Toml)
    (read : value maxDepth (written ++ '\n' :: rest) = some (found, '\n' :: rest)) :
    statement (entryLine name written rest) = some (.entry [name] found, rest) := by
  obtain ⟨first, more, front, firstBare⟩ := bare_front name bare
  have key : dottedKey (entryLine name written rest).length.succ (entryLine name written rest) =
      some ([name], '=' :: ' ' :: (written ++ '\n' :: rest)) :=
    dottedKey_bare name bare _ ' ' rfl _ _ '=' rfl (by decide)
  have notHeader (rest' : List Char) : entryLine name written rest ≠ '[' :: rest' := by
    intro same
    rw [entryLine, front] at same
    exact ne_of_bare first '[' firstBare rfl (List.cons.inj same).1
  unfold statement
  split
  · next same => exact absurd same (notHeader _)
  · next same => exact absurd same (notHeader _)
  · rw [key]
    simp only [skipBlanks_begins written _ begins, read]
    rfl

end

/-! ### Documents -/

inductive Document : List Char → List Statement → Prop
  | ends : Document [] []
  | blank (rest : List Char) (found : List Statement) (later : Document rest found) : Document ('\n' :: rest) found
  | line (first : Char) (more rest : List Char) (front : first = '[' ∨ isBareKey first = true) (here : Statement)
    (read : statement (first :: more) = some (here, rest)) (found : List Statement) (later : Document rest found) :
    Document (first :: more) (here :: found)

theorem skipSpace_front (first : Char) (rest : List Char) (front : first = '[' ∨ isBareKey first = true)
    (steps : Nat) : skipSpace (steps + 1) (first :: rest) = some (first :: rest) := by
  have other (c : Char) (notBracket : c ≠ '[') (not : isBareKey c = false) : first ≠ c := by
    rintro rfl
    exact front.elim notBracket fun bare => Bool.false_ne_true (not.symm.trans bare)
  have noBlank : skipBlanks (first :: rest) = first :: rest := by
    refine skipBlanks_front first rest ?_
    rw [isBlank, Bool.or_eq_false_iff, beq_eq_false_iff_ne, beq_eq_false_iff_ne]
    exact ⟨other ' ' (by decide) rfl, other '\t' (by decide) rfl⟩
  have noComment : skipComment (first :: rest) = first :: rest := by
    unfold skipComment
    split
    · next same => exact absurd (List.cons.inj same).1 (other '#' (by decide) rfl)
    · rfl
  have noBreak := newline?_apart first rest (other '\n' (by decide) rfl) (other '\r' (by decide) rfl)
  rw [skipSpace]
  simp only [noBlank, noComment, noBreak]
  exact if_neg fun same => other '#' (by decide) rfl (Option.some.inj same)

theorem statements_of_document (input : List Char) (found : List Statement) (document : Document input found)
    (steps : Nat) (enough : found.length < steps) : statements steps input = some found := by
  obtain ⟨steps, rfl⟩ : ∃ left, steps = left + 1 := ⟨steps - 1, by omega⟩
  induction document generalizing steps with
  | ends => rfl
  | blank rest found _ ih => exact ih steps enough
  | line first more rest front here read found _ ih =>
    obtain ⟨left, rfl⟩ : ∃ left, steps = left + 1 := ⟨steps - 1, by rw [List.length_cons] at enough; omega⟩
    rw [statements, List.length_cons, skipSpace_front first more front]
    simp only [List.isEmpty_cons, Bool.false_eq_true, if_false, read]
    rw [ih left (by simpa using enough)]
    rfl

theorem document_header (name : String) (bare : Bare name) (rest : List Char) (found : List Statement)
    (later : Document rest found) : Document (headerLine name rest) (.table [name] :: found) :=
  .line '[' _ rest (.inl rfl) _ (statement_header name bare rest) found later

theorem document_entry (key : String) (bare : Bare key) (written rest : List Char) (begins : Begins written)
    (content : Toml) (read : value maxDepth (written ++ '\n' :: rest) = some (content, '\n' :: rest))
    (found : List Statement) (later : Document rest found) :
    Document (entryLine key written rest) (.entry [key] content :: found) := by
  obtain ⟨first, more, front, firstBare⟩ := bare_front key bare
  have here := statement_entry key bare written rest begins content read
  rw [entryLine, front] at here ⊢
  exact .line first _ rest (.inr firstBare) _ here found later

end Toml

namespace Config

open Toml

def entries (config : Config) : List (String × Toml) :=
  [("sandbox", .table [("memory_limit_bytes", .integer config.limits.memoryBytes),
      ("timeout_ms", .integer config.limits.timeoutMs),
      ("console_max_size_bytes", .integer config.limits.consoleBytes)]),
    ("http", .table [("enabled", .boolean config.http.enabled),
      ("allowed_hosts", .array (config.http.allowedHosts.map .text)),
      ("user_agent", .text config.http.userAgent)])]

def statements (config : Config) : List Statement :=
  [.table ["sandbox"], .entry ["memory_limit_bytes"] (.integer config.limits.memoryBytes),
    .entry ["timeout_ms"] (.integer config.limits.timeoutMs),
    .entry ["console_max_size_bytes"] (.integer config.limits.consoleBytes), .table ["http"],
    .entry ["enabled"] (.boolean config.http.enabled),
    .entry ["allowed_hosts"] (.array (config.http.allowedHosts.map .text)),
    .entry ["user_agent"] (.text config.http.userAgent)]

def lines (config : Config) (rest : List Char) : List Char :=
  headerLine "sandbox" <|
  entryLine "memory_limit_bytes" (toString (config.limits.memoryBytes : Int)).toList <|
  entryLine "timeout_ms" (toString config.limits.timeoutMs).toList <|
  entryLine "console_max_size_bytes" (toString (config.limits.consoleBytes : Int)).toList <|
  '\n' :: headerLine "http" (
  entryLine "enabled" (toString config.http.enabled).toList <|
  entryLine "allowed_hosts" (writeTexts config.http.allowedHosts).toList <|
  entryLine "user_agent" (writeText config.http.userAgent).toList rest)

theorem lines_of_write (config : Config) (writable : config.limits.Writable) :
    ∃ shown, config.write? = some shown ∧ ∀ rest, shown.toList ++ rest = config.lines rest := by
  refine ⟨_, if_neg ?_, fun rest => ?_⟩
  · rintro (memory | console)
    · exact Nat.not_lt.2 writable.memory memory
    · exact Nat.not_lt.2 writable.console console
  · simp only [String.toList_append, lines, headerLine, entryLine, List.append_assoc]
    rfl

theorem begins_integer (n : Int) : Begins (toString n).toList := by
  obtain ⟨first, more, written, front, -⟩ := integer_front n
  refine ⟨first, more, written, ?_⟩
  obtain rfl | digit := front
  · rfl
  · rw [isBlank, Bool.or_eq_false_iff, beq_eq_false_iff_ne, beq_eq_false_iff_ne]
    exact ⟨Json.ne_of_isDigit first ' ' digit rfl, Json.ne_of_isDigit first '\t' digit rfl⟩

theorem begins_text (text : String) : Begins (writeText text).toList := by
  obtain ⟨mark, more, front, isMark⟩ := textChars_front text.toList
  rw [writeText, String.toList_ofList]
  refine ⟨mark, more, front, ?_⟩
  simp only [List.mem_cons, List.not_mem_nil, or_false] at isMark
  obtain rfl | rfl := isMark <;> rfl

theorem begins_texts (texts : List String) : Begins (writeTexts texts).toList := by
  unfold writeTexts
  split
  · exact ⟨'[', _, rfl, rfl⟩
  · rw [String.toList_append, String.toList_append]
    exact ⟨'[', _, rfl, rfl⟩
  · rw [String.toList_append, String.toList_append]
    exact ⟨'[', _, rfl, rfl⟩

theorem fits_size (size : Nat) (small : size ≤ greatestInteger) : fitsWord size = true := by
  simp only [greatestInteger] at small
  simp only [fitsWord, Bool.and_eq_true, decide_eq_true_eq]
  omega

theorem document_lines (config : Config) (writable : config.limits.Writable) (rest : List Char)
    (behind : Document rest []) : Document (config.lines rest) config.statements := by
  have newline (more : List Char) : Unmarked ('\n' :: more) := unmarked_cons '\n' (by decide) more
  have memory := fits_size _ writable.memory
  have console := fits_size _ writable.console
  have enabled : Begins (toString config.http.enabled).toList := by
    cases config.http.enabled <;> exact ⟨_, _, rfl, rfl⟩
  have bare (name : String) (some_ : name.toList ≠ []) (all : name.toList.all isBareKey = true) : Bare name :=
    ⟨some_, List.all_eq_true.1 all⟩
  refine document_header "sandbox" (bare _ (by decide) (by decide)) _ _ ?_
  refine document_entry _ (bare _ (by decide) (by decide)) _ _ (begins_integer _) _ (value_integer _ _ memory _) _ ?_
  refine document_entry _ (bare _ (by decide) (by decide)) _ _ (begins_integer _) _
    (value_integer _ _ writable.timeout _) _ ?_
  refine document_entry _ (bare _ (by decide) (by decide)) _ _ (begins_integer _) _ (value_integer _ _ console _) _ ?_
  refine .blank _ _ (document_header "http" (bare _ (by decide) (by decide)) _ _ ?_)
  refine document_entry _ (bare _ (by decide) (by decide)) _ _ enabled _ (value_boolean _ _ _) _ ?_
  refine document_entry _ (bare _ (by decide) (by decide)) _ _ (begins_texts _) _ (value_texts _ _ _) _ ?_
  exact document_entry _ (bare _ (by decide) (by decide)) _ _ (begins_text _) _ (value_text _ _ _ (newline _)) _ behind

theorem expectTexts_texts (texts : List String) : expectTexts (.array (texts.map .text)) = .ok texts := by
  change (texts.map Toml.text).mapM expectText = .ok texts
  induction texts with
  | nil => rfl
  | cons text texts ih =>
    rw [List.map_cons, List.mapM_cons, ih]
    rfl

theorem expectSize_size (size : Nat) : expectSize (.integer size) = .ok size := by
  rw [expectSize, if_pos (Int.natCast_nonneg size), Int.toNat_natCast]

theorem ofEntries_entries (config : Config) : ofEntries config.entries = .ok config := by
  have limits : expectFields "SandboxConfig" ["memory_limit_bytes", "timeout_ms", "console_max_size_bytes"] setLimit
      .default (.table [("memory_limit_bytes", .integer config.limits.memoryBytes),
        ("timeout_ms", .integer config.limits.timeoutMs),
        ("console_max_size_bytes", .integer config.limits.consoleBytes)]) = .ok config.limits := by
    simp only [expectFields, List.foldlM_cons, setLimit, expectSize_size]
    rfl
  have http : expectFields "HttpConfig" ["enabled", "allowed_hosts", "user_agent"] setHttp .default
      (.table [("enabled", .boolean config.http.enabled),
        ("allowed_hosts", .array (config.http.allowedHosts.map .text)),
        ("user_agent", .text config.http.userAgent)]) = .ok config.http := by
    simp only [expectFields, List.foldlM_cons, setHttp, expectTexts_texts]
    rfl
  simp only [ofEntries, entries, List.foldlM_cons, setPart, limits, http]
  rfl

theorem read_lines (config : Config) (writable : config.limits.Writable) (checked : config.http.check = .ok ())
    (text : String) (rest : List Char) (behind : Document rest []) (written : text.toList = config.lines rest) :
    read text = .ok config := by
  refine (read_eq_ok text config).2 ⟨config.entries, ?_, ofEntries_entries config, checked⟩
  have long : config.statements.length ≤ (config.lines rest).length := by
    rw [lines, headerLine, List.length_cons, List.length_append, show "sandbox".toList.length = 7 by decide]
    simp only [statements, List.length_cons, List.length_nil]
    omega
  have listed : Toml.statements (config.lines rest).length.succ (config.lines rest) = some config.statements :=
    statements_of_document _ _ (config.document_lines writable rest behind) _ (Nat.lt_succ_of_le long)
  -- The text begins with a bracket, so the reader drops no byte order mark.
  rw [parse?, written]
  change (Toml.statements (config.lines rest).length.succ (config.lines rest) >>= fun found =>
    build found [] ⟨[], false, []⟩ >>= fun root => some (Node.entriesToToml root)) = some config.entries
  rw [listed]
  rfl

section

variable {m : Type → Type} [Monad m] [LawfulMonad m] (shell : Shell m) (environment : Environment) (config : Config)
  (shown : String)

theorem showConfig_of_write (wrote : config.write? = some shown) :
    Program.showConfig shell environment config .contents = do
      shell.print (shown ++ "\n")
      return 0 := by
  rw [Program.showConfig, Program.document, wrote]
  exact pure_bind _ _

theorem init_of_write (force : Bool) (wrote : Config.default.write? = some shown) :
    Program.init shell environment force = do
      if !force && (← (shell.isPresent environment.configPath : m _)) then
        shell.print ("Configuration already exists at: " ++ environment.configPath ++ "\nUse --force to overwrite\n")
      else
        Program.filed (shell.makeDirectories environment.configDirectory)
        Program.filed (shell.writeFile environment.configPath shown)
        shell.print ("Created configuration at: " ++ environment.configPath ++ "\n" ++ Program.quickStart)
      return 0 := by
  rw [Program.init, Program.document, wrote]
  simp only [pure_bind]

end

/-- A configuration that was read can be written, and what is written is read as the same configuration. The command
that shows a configuration prints it with one more line end behind it; the command that sets up a configuration
writes the default one, unless it leaves a file as it is. -/
theorem written_reloads (text : String) (config : Config) (accepted : read text = .ok config) :
    (∃ shown, config.write? = some shown ∧ read shown = .ok config ∧ read (shown ++ "\n") = .ok config ∧
      ∀ (m : Type → Type) [Monad m] [LawfulMonad m] (shell : Shell m) (environment : Environment),
        Program.showConfig shell environment config .contents = do
          shell.print (shown ++ "\n")
          return 0) ∧
    ∃ initial, Config.default.write? = some initial ∧ read initial = .ok .default ∧
      ∀ (m : Type → Type) [Monad m] [LawfulMonad m] (shell : Shell m) (environment : Environment) (force : Bool),
        Program.init shell environment force = do
          if !force && (← (shell.isPresent environment.configPath : m _)) then
            shell.print ("Configuration already exists at: " ++ environment.configPath ++
              "\nUse --force to overwrite\n")
          else
            Program.filed (shell.makeDirectories environment.configDirectory)
            Program.filed (shell.writeFile environment.configPath initial)
            shell.print ("Created configuration at: " ++ environment.configPath ++ "\n" ++ Program.quickStart)
          return 0 := by
  constructor
  · obtain ⟨shown, wrote, written⟩ := config.lines_of_write (read_writable text config accepted)
    have reads := read_lines config (read_writable text config accepted) (read_checked text config accepted)
    have prints (m : Type → Type) [Monad m] [LawfulMonad m] (shell : Shell m) (environment : Environment) :=
      showConfig_of_write shell environment config shown wrote
    refine ⟨shown, wrote, ?_, ?_, prints⟩
    · refine reads shown [] .ends ?_
      rw [← written, List.append_nil]
    · refine reads _ ['\n'] (.blank [] [] .ends) ?_
      rw [String.toList_append, ← written]
      rfl
  · obtain ⟨initial, wrote, written⟩ := Config.default.lines_of_write writable_default
    have writes (m : Type → Type) [Monad m] [LawfulMonad m] (shell : Shell m) (environment : Environment)
        (force : Bool) := init_of_write shell environment initial force wrote
    refine ⟨initial, wrote, ?_, writes⟩
    refine read_lines .default writable_default (read_checked "" .default read_empty) initial [] .ends ?_
    rw [← written, List.append_nil]

def quoting : String :=
  "sandbox = [9223372036854775807, -1]\nhttp.allowed_hosts = [\" a'b\\\"\", 'é\\', \"\\n\\u0001'\"]\n"

def quoted : Config :=
  { limits := { memoryBytes := 0x7FFFFFFFFFFFFFFF, timeoutMs := -1, consoleBytes := 10000 }
    http := { HttpConfig.default with allowedHosts := [" a'b\"", "é\\", "\n\x01'"] } }

theorem check_of_bare (http : HttpConfig) (bare : ∀ host ∈ http.allowedHosts, HttpConfig.isBareHost (Text.trim host))
    (some_ : http.userAgent.isEmpty = false) (plain : http.userAgent.any Text.isControl = false) :
    http.check = .ok () := by
  have noComplaint : (http.allowedHosts.map Text.trim).find? (fun host => !HttpConfig.isBareHost host) = none := by
    rw [List.find?_eq_none, List.forall_mem_map]
    intro host among
    simp [bare host among]
  rw [HttpConfig.check, noComplaint]
  simp only [some_, plain, Bool.or_self, Bool.false_eq_true, if_false]
  rfl

theorem read_quoting : read quoting = .ok quoted := by
  have bare : ∀ host ∈ quoted.http.allowedHosts, HttpConfig.isBareHost (Text.trim host) := by
    simp only [HttpConfig.isBareHost, String.all_bool_eq]
    decide +kernel
  have checked := check_of_bare quoted.http bare (by decide) HttpConfig.default_plain
  have described : ((parse? quoting).bind fun entries => (ofEntries entries).toOption) = some quoted := by
    decide +kernel
  obtain ⟨entries, parsed, found⟩ := Option.bind_eq_some_iff.1 described
  refine (read_eq_ok quoting quoted).2 ⟨entries, parsed, ?_, checked⟩
  cases same : ofEntries entries with
  | error complaint =>
    rw [same] at found
    cases found
  | ok config =>
    rw [same] at found
    cases found
    rfl

/-- Of the three hosts each is written in another form. -/
theorem quoting_reloads : read quoting = .ok quoted ∧ ∃ shown, quoted.write? = some shown ∧
    shown = "[sandbox]\nmemory_limit_bytes = 9223372036854775807\ntimeout_ms = -1\nconsole_max_size_bytes = 10000\n" ++
      "\n[http]\nenabled = false\nallowed_hosts = [\n    \"\"\" a'b\"\"\"\",\n    'é\\',\n" ++
      "    \"\"\"\n\n\\u0001'\"\"\",\n]\nuser_agent = \"scriptlet/0.1.0\"\n" ∧
    read shown = .ok quoted := by
  obtain ⟨⟨shown, wrote, reads, -, -⟩, -⟩ := written_reloads quoting quoted read_quoting
  refine ⟨read_quoting, shown, wrote, ?_, reads⟩
  refine Option.some.inj (wrote.symm.trans ?_)
  decide +kernel

end Config

end ScriptSandbox
