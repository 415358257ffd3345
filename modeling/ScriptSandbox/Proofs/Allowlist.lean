import Mathlib
import ScriptSandbox.CommandLine.Program

/-!
The allowlist of hosts, from the configuration and the command line to the client. An empty list lets every
host through, and the client drops entries that are only blanks. The check of a configuration refuses
such entries; the command line does not, so a list that was given there may open what it should close.
-/

namespace ScriptSandbox

/-! ### Texts -/

namespace Text

theorem lower_lower (text : String) : lower (lower text) = lower text := by
  apply String.toList_inj.1
  simp only [lower, String.toList_map, List.map_map]
  exact List.map_congr_left fun c _ => Char.toLower_toLower_eq_toLower c

theorem lower_eq_empty_iff (text : String) : lower text = "" ↔ text = "" := String.map_eq_empty

end Text

/-! ### Accepted configurations -/

namespace HttpConfig

theorem check_ok (http : HttpConfig) (accepted : http.check = .ok ()) :
    (∀ host ∈ http.allowedHosts, isBareHost (Text.trim host) = true) ∧
      http.userAgent.any Text.isControl = false := by
  unfold check at accepted
  split at accepted
  · cases accepted
  · next bare =>
    split at accepted
    · cases accepted
    · next plain =>
      constructor
      · intro host listed
        have trimmed := List.find?_eq_none.1 bare (Text.trim host) (List.mem_map_of_mem listed)
        simpa using trimmed
      · simp only [Bool.or_eq_true, not_or, Bool.not_eq_true] at plain
        exact plain.2

theorem trim_ne_empty_of_bare (host : String) (bare : isBareHost (Text.trim host) = true) :
    Text.trim host ≠ "" := by
  intro empty
  rw [empty] at bare
  simp [isBareHost] at bare

end HttpConfig

theorem Config.read_checked (text : String) (config : Config) (accepted : Config.read text = .ok config) :
    config.http.check = .ok () := by
  obtain ⟨entries, parsed, described, checked⟩ := (Config.read_eq_ok text config).1 accepted
  exact checked

namespace HttpBackend

theorem isHeaderValue_of_plain (text : String) (plain : text.any Text.isControl = false) :
    isHeaderValue text = true := by
  have listed : text.toList.any Text.isControl = false := by
    rw [← plain]
    exact String.contains_bool_eq.symm
  rw [isHeaderValue, String.all_bool_eq, List.all_eq_true]
  intro c member
  have harmless := List.any_eq_false.1 listed c member
  simp only [Text.isControl, Bool.or_eq_true, Bool.and_eq_true, decide_eq_true_eq, not_or, not_and] at harmless
  obtain ⟨visible, other⟩ := harmless
  have notDelete : c.val ≠ 0x7F := fun same => other (by rw [same]; decide) (by rw [same]; decide)
  have large : 0x20 ≤ c.val := by
    rw [UInt32.le_iff_toNat_le]
    rw [UInt32.lt_iff_toNat_lt] at visible
    omega
  simp [large, notDelete]

/-! ### The list that is kept -/

def kept (hosts : List String) : List String :=
  (hosts.map fun host => Text.lower (Text.trim host)).filter (!·.isEmpty)

theorem mem_kept (name : String) (hosts : List String) :
    name ∈ kept hosts ↔ (∃ host ∈ hosts, Text.lower (Text.trim host) = name) ∧ name ≠ "" := by
  simp only [kept, List.mem_filter, List.mem_map, Bool.not_eq_true', String.isEmpty_eq_false_iff]

theorem kept_ne_nil_iff (hosts : List String) : kept hosts ≠ [] ↔ ∃ host ∈ hosts, Text.trim host ≠ "" := by
  constructor
  · intro some
    obtain ⟨name, member⟩ := List.exists_mem_of_ne_nil _ some
    obtain ⟨⟨host, listed, rfl⟩, named⟩ := (mem_kept name hosts).1 member
    exact ⟨host, listed, fun empty => named ((Text.lower_eq_empty_iff _).2 empty)⟩
  · rintro ⟨host, listed, named⟩
    have member := (mem_kept (Text.lower (Text.trim host)) hosts).2
      ⟨⟨host, listed, rfl⟩, fun empty => named ((Text.lower_eq_empty_iff _).1 empty)⟩
    exact List.ne_nil_of_mem member

theorem create_of_checked (http : HttpConfig) (enabled : http.enabled = true)
    (checked : http.userAgent.any Text.isControl = false) :
    create http = .ok (some { allowedHosts := kept http.allowedHosts, userAgent := http.userAgent }) := by
  have header := isHeaderValue_of_plain http.userAgent checked
  simp only [create, enabled, header, Bool.not_true, Bool.false_eq_true, if_false]
  rfl

/-! ### Requests -/

/-- A request that a list of hosts lets through: its address is one of the web, and its host is an entry
of the list, but for blanks around the entry and for capitals. -/
def Permits (hosts : List String) (request : HttpRequest) : Prop :=
  ∃ url, Url.parse request.url = .ok url ∧ (url.scheme = "http" ∨ url.scheme = "https") ∧
    ∃ host ∈ hosts, Text.lower (Text.trim host) = Text.lower url.host

inductive Denies : Failure → Prop
  | url (url reason : String) : Denies (.invalidUrl url reason)
  | host (host : String) : Denies (.hostNotAllowed host)

/-- There is a client, and it sends nothing but what the list of its configuration lets through. Whatever
the network is, other requests fail because of their address. -/
def FailsClosed (http : HttpConfig) : Prop :=
  ∃ backend, create http = .ok (some backend) ∧ ∀ request, ¬ Permits http.allowedHosts request →
    ∃ failure, Denies failure ∧ ∀ transport, backend.call transport request = .error failure

theorem call_of_prepare_error (backend : HttpBackend) (request : HttpRequest) (failure : Failure)
    (refused : backend.prepare request = .error failure) (transport : Transport) :
    backend.call transport request = .error failure := by
  rw [call, refused]
  rfl

theorem call_of_prepare_ok (backend : HttpBackend) (request : HttpRequest) (prepared : PreparedRequest)
    (accepted : backend.prepare request = .ok prepared) (transport : Transport) :
    backend.call transport request = transport prepared := by
  rw [call, accepted]
  rfl

theorem prepare_cases (backend : HttpBackend) (request : HttpRequest) :
    (∃ failure, Denies failure ∧ backend.prepare request = .error failure) ∨
    (∃ url, Url.parse request.url = .ok url ∧ (url.scheme = "http" ∨ url.scheme = "https") ∧
      backend.isHostAllowed url.host = true) := by
  unfold prepare
  split
  · next fault _ => exact .inl ⟨_, Denies.url _ _, rfl⟩
  · next url parsed =>
    split
    · exact .inl ⟨_, Denies.url _ _, rfl⟩
    · next web =>
      split
      · exact .inl ⟨_, Denies.host _, rfl⟩
      · next allowed =>
        refine .inr ⟨url, parsed, ?_, by simpa using allowed⟩
        by_cases plain : url.scheme = "http"
        · exact .inl plain
        · exact .inr (Decidable.of_not_not fun other => web ⟨plain, other⟩)

theorem permits_of_allowed (hosts : List String) (userAgent : String) (host : String)
    (restricted : kept hosts ≠ [])
    (allowed : isHostAllowed { allowedHosts := kept hosts, userAgent } host = true) :
    ∃ entry ∈ hosts, Text.lower (Text.trim entry) = Text.lower host := by
  have nonempty : (kept hosts).isEmpty = false := by simpa using restricted
  simp only [isHostAllowed, nonempty, Bool.false_or, List.any_eq_true, beq_iff_eq] at allowed
  obtain ⟨name, member, same⟩ := allowed
  obtain ⟨⟨entry, listed, rfl⟩, -⟩ := (mem_kept name hosts).1 member
  rw [Text.lower_lower] at same
  exact ⟨entry, listed, same⟩

def loopback : HttpRequest := { method := "GET", url := "http://[::1]", body := none, headers := [] }

theorem loopback_parse : Url.parse loopback.url = .ok ⟨"http", "[::1]"⟩ := rfl

theorem loopback_not_denied (userAgent : String) (failure : Failure) (denies : Denies failure) :
    prepare { allowedHosts := [], userAgent } loopback ≠ .error failure := by
  intro refused
  simp only [prepare, loopback_parse] at refused
  rw [if_neg (by decide), if_neg (by simp [isHostAllowed])] at refused
  split at refused
  · cases refused
    cases denies
  · cases refused

theorem failsClosed_of_checked_iff (http : HttpConfig) (enabled : http.enabled = true)
    (checked : http.userAgent.any Text.isControl = false) :
    FailsClosed http ↔ ∃ host ∈ http.allowedHosts, Text.trim host ≠ "" := by
  have created := create_of_checked http enabled checked
  rw [← kept_ne_nil_iff]
  constructor
  · rintro ⟨backend, same, refuses⟩ empty
    rw [created, empty] at same
    obtain ⟨rfl⟩ := Option.some.inj (Except.ok.inj same)
    have blank (host : String) (listed : host ∈ http.allowedHosts) : Text.trim host = "" :=
      Decidable.of_not_not fun named => (kept_ne_nil_iff _).2 ⟨host, listed, named⟩ empty
    have denied : ¬ Permits http.allowedHosts loopback := by
      rintro ⟨url, parsed, -, host, listed, matched⟩
      rw [loopback_parse] at parsed
      cases parsed
      rw [blank host listed] at matched
      have named := (Text.lower_eq_empty_iff "[::1]").1 (matched.symm.trans ((Text.lower_eq_empty_iff "").2 rfl))
      exact absurd named (by decide)
    obtain ⟨failure, denies, fails⟩ := refuses loopback denied
    -- Either the request has another fault, or it is sent and some network answers it.
    cases prepared : prepare { allowedHosts := [], userAgent := http.userAgent } loopback with
    | error other =>
      have same := fails .unreachable
      rw [call_of_prepare_error _ _ _ prepared] at same
      cases same
      exact loopback_not_denied http.userAgent failure denies prepared
    | ok request =>
      have same := fails fun _ => .ok { status := none, statusText := none, body := none, headers := [] }
      rw [call_of_prepare_ok _ _ _ prepared] at same
      cases same
  · intro restricted
    refine ⟨_, created, fun request denied => ?_⟩
    obtain ⟨failure, denies, refused⟩ | ⟨url, parsed, web, allowed⟩ :=
      prepare_cases { allowedHosts := kept http.allowedHosts, userAgent := http.userAgent } request
    · exact ⟨failure, denies, call_of_prepare_error _ _ _ refused⟩
    · exact absurd ⟨url, parsed, web, permits_of_allowed _ _ _ restricted allowed⟩ denied

end HttpBackend

theorem HttpConfig.default_plain : HttpConfig.default.userAgent.any Text.isControl = false := by
  refine String.contains_bool_eq.trans ?_
  decide

theorem Config.read_empty : Config.read "" = .ok .default := by
  have parsed : Toml.parse? "" = some [] := rfl
  have checked : HttpConfig.default.check = .ok () := by
    simp only [HttpConfig.check, HttpConfig.default_plain]
    rfl
  simp only [Config.read, parsed]
  show (HttpConfig.default.check >>= fun _ => pure Config.default) = _
  rw [checked]
  rfl

namespace EvalArguments

def naming (hosts : List String) : EvalArguments :=
  { EvalArguments.none with allowedHosts := hosts }

/-- For an accepted configuration and any command line that leaves a list of hosts, the client fails
closed unless the list is the command line's and all of its entries are blanks. -/
theorem http_failsClosed_iff (text : String) (config : Config) (arguments : EvalArguments)
    (accepted : Config.read text = .ok config) (enabled : (arguments.http config.http).enabled = true)
    (restricted : (arguments.http config.http).allowedHosts ≠ []) :
    HttpBackend.FailsClosed (arguments.http config.http) ↔
      arguments.allowedHosts = [] ∨ ∃ host ∈ arguments.allowedHosts, Text.trim host ≠ "" := by
  obtain ⟨bare, plain⟩ := HttpConfig.check_ok _ (Config.read_checked text config accepted)
  rw [HttpBackend.failsClosed_of_checked_iff _ enabled plain]
  cases given : arguments.allowedHosts with
  | nil =>
    have configured : (arguments.http config.http).allowedHosts = config.http.allowedHosts := by
      simp [http, given]
    rw [configured] at restricted ⊢
    obtain ⟨host, listed⟩ := List.exists_mem_of_ne_nil _ restricted
    refine iff_of_true ⟨host, listed, HttpConfig.trim_ne_empty_of_bare host (bare host listed)⟩ (.inl rfl)
  | cons first rest =>
    have named : (arguments.http config.http).allowedHosts = first :: rest := by
      simp [http, given]
    rw [named]
    simp only [reduceCtorEq, false_or]

theorem naming_host_failsClosed : Config.read "" = .ok .default ∧
    HttpBackend.FailsClosed ((naming ["a.example"]).http Config.default.http) :=
  ⟨Config.read_empty, (http_failsClosed_iff "" .default (naming ["a.example"]) Config.read_empty rfl nofun).2
    (.inr ⟨"a.example", .head _, by decide⟩)⟩

theorem naming_blank_not_failsClosed : Config.read "" = .ok .default ∧
    ((naming [" "]).http Config.default.http).enabled = true ∧
    ((naming [" "]).http Config.default.http).allowedHosts ≠ [] ∧
    ¬ HttpBackend.FailsClosed ((naming [" "]).http Config.default.http) := by
  refine ⟨Config.read_empty, rfl, nofun, fun closed => ?_⟩
  obtain ⟨host, listed, named⟩ :=
    (HttpBackend.failsClosed_of_checked_iff ((naming [" "]).http Config.default.http) rfl
      HttpConfig.default_plain).1 closed
  obtain rfl := List.mem_singleton.1 listed
  exact named (by decide)

end EvalArguments

end ScriptSandbox
