import ScriptSandbox.Config
import ScriptSandbox.Text.Lossy
import ScriptSandbox.Toml.Reader
import ScriptSandbox.Toml.Writer

/-!
Configurations as TOML documents. What a document leaves out has its default; entries that mean nothing
are passed over. A table may be given as an array of its values in order. `Config.read` and
`Config.write` are inverse on every accepted configuration.
-/

namespace ScriptSandbox

def Toml.found : Toml → Found
  | .integer value => .integer value
  | .float value => .float value
  | .boolean value => .boolean value
  | .text value => .text value
  | .datetime => .map
  | .array _ => .sequence
  | .table _ => .map

namespace Config

abbrev Reading (α : Type) := Except Mismatch α

def expectInteger : Toml → Reading Int
  | .integer value => .ok value
  | other => .error (.wrongType other.found "i64")

def expectSize : Toml → Reading Nat
  | .integer value =>
    if 0 ≤ value then .ok value.toNat else .error (.outOfRange (.integer value) "usize")
  | other => .error (.wrongType other.found "usize")

def expectBoolean : Toml → Reading Bool
  | .boolean value => .ok value
  | other => .error (.wrongType other.found "a boolean")

def expectText : Toml → Reading String
  | .text value => .ok value
  | other => .error (.wrongType other.found "a string")

def expectTexts : Toml → Reading (List String)
  | .array items => items.mapM expectText
  | other => .error (.wrongType other.found "a sequence")

/-- Reads a table by its fields. An array gives the fields their values in order. -/
def expectFields (name : String) (fields : List String)
    (set : String → Toml → α → Reading α) (start : α) : Toml → Reading α
  | .table entries => entries.foldlM (fun result (key, value) => set key value result) start
  | .array items =>
    (fields.zip items).foldlM (fun result (key, value) => set key value result) start
  | .datetime => .ok start
  | other => .error (.wrongType other.found ("struct " ++ name))

def setLimit (key : String) (value : Toml) (limits : Limits) : Reading Limits :=
  match key with
  | "memory_limit_bytes" => return { limits with memoryBytes := ← expectSize value }
  | "timeout_ms" => return { limits with timeoutMs := ← expectInteger value }
  | "console_max_size_bytes" => return { limits with consoleBytes := ← expectSize value }
  | _ => return limits

def setHttp (key : String) (value : Toml) (http : HttpConfig) : Reading HttpConfig :=
  match key with
  | "enabled" => return { http with enabled := ← expectBoolean value }
  | "allowed_hosts" => return { http with allowedHosts := ← expectTexts value }
  | "user_agent" => return { http with userAgent := ← expectText value }
  | _ => return http

def setPart (key : String) (value : Toml) (config : Config) : Reading Config :=
  match key with
  | "sandbox" =>
    return { config with
      limits := ← expectFields "SandboxConfig"
        ["memory_limit_bytes", "timeout_ms", "console_max_size_bytes"] setLimit .default value }
  | "http" =>
    return { config with
      http := ← expectFields "HttpConfig" ["enabled", "allowed_hosts", "user_agent"] setHttp .default
        value }
  | _ => return config

def ofEntries (entries : List (String × Toml)) : Reading Config :=
  entries.foldlM (fun config (key, value) => setPart key value config) .default

def read (text : String) : Except Failure Config :=
  match Toml.parse? text with
  | none => throw (.toml "")
  | some entries =>
    match ofEntries entries with
    | .error complaint => throw (.toml complaint.message)
    | .ok config => do
      config.http.check
      return config

theorem read_eq_ok (text : String) (config : Config) : read text = .ok config ↔
    ∃ entries, Toml.parse? text = some entries ∧ ofEntries entries = .ok config ∧ config.http.check = .ok () := by
  constructor
  · intro accepted
    unfold read at accepted
    split at accepted
    · cases accepted
    · next entries parsed =>
      split at accepted
      · cases accepted
      · next found described =>
        cases checked : found.http.check with
        | error failure =>
          rw [checked] at accepted
          cases accepted
        | ok nothing =>
          rw [checked] at accepted
          cases accepted
          exact ⟨entries, parsed, described, checked⟩
  · rintro ⟨entries, parsed, described, checked⟩
    unfold read
    rw [parsed]
    dsimp only
    rw [described]
    dsimp only
    rw [checked]
    rfl

def greatestInteger : Nat := 0x7FFFFFFFFFFFFFFF

def write? (config : Config) : Option String :=
  if greatestInteger < config.limits.memoryBytes ∨ greatestInteger < config.limits.consoleBytes then none
  else some (
    "[sandbox]\nmemory_limit_bytes = " ++ toString config.limits.memoryBytes ++
    "\ntimeout_ms = " ++ toString config.limits.timeoutMs ++
    "\nconsole_max_size_bytes = " ++ toString config.limits.consoleBytes ++
    "\n\n[http]\nenabled = " ++ toString config.http.enabled ++
    "\nallowed_hosts = " ++ Toml.writeTexts config.http.allowedHosts ++
    "\nuser_agent = " ++ Toml.writeText config.http.userAgent ++ "\n")

def fileText (content : Array UInt8) : Except Failure String :=
  match Lossy.strict? content with
  | some text => pure text
  | none => throw (.file .notUnicode)

/-- Loads a configuration from what reading its file gave; a missing file stands for the default. -/
def load : Except FileFault (Array UInt8) → Except Failure Config
  | .error .notFound => pure .default
  | .error fault => throw (.file fault)
  | .ok content => do read (← fileText content)

end Config

end ScriptSandbox
