import ScriptSandbox.Config
import ScriptSandbox.Http.Message
import ScriptSandbox.Http.Url

/-!
The HTTP client behind `fetch`. It sends a request only if its URL parses, its scheme is a web scheme,
its host is on the allowlist and its method is a token; `HttpBackend.prepare` decides that before
anything is sent, and reports the first of these faults.
-/

namespace ScriptSandbox

/-- A client with its allowlist, whose names are trimmed, in small letters and not empty. -/
structure HttpBackend where
  /-- An empty list allows every host. -/
  allowedHosts : List String
  userAgent : String
  deriving Repr, DecidableEq

structure PreparedRequest where
  method : String
  url : Url
  body : Option String
  userAgent : String

abbrev Transport := PreparedRequest → Except Failure HttpResponse

def Transport.unreachable : Transport :=
  fun _ => throw (.http "error sending request")

namespace HttpBackend

def name : String := "http-client"

/-- Whether a text can be the value of a header: no control characters but the tab. -/
def isHeaderValue (text : String) : Bool :=
  text.all fun c => c == '\t' || (0x20 ≤ c.val && c.val != 0x7F)

def isMethod (text : String) : Bool :=
  !text.isEmpty && text.all fun c => c.isAlphanum || "!#$%&'*+-.^_`|~".toList.contains c

def create (config : HttpConfig) : Except Failure (Option HttpBackend) :=
  if !config.enabled then pure none
  else if !isHeaderValue config.userAgent then throw (.http "builder error")
  else
    let hosts := config.allowedHosts.map fun host => Text.lower (Text.trim host)
    pure (some { allowedHosts := hosts.filter (!·.isEmpty), userAgent := config.userAgent })

def isHostAllowed (backend : HttpBackend) (host : String) : Bool :=
  backend.allowedHosts.isEmpty ||
    backend.allowedHosts.any fun allowed => Text.lower allowed == Text.lower host

def prepare (backend : HttpBackend) (request : HttpRequest) : Except Failure PreparedRequest :=
  match Url.parse request.url with
  | .error fault => throw (.invalidUrl request.url fault.message)
  | .ok url =>
    if url.scheme ≠ "http" ∧ url.scheme ≠ "https" then
      throw (.invalidUrl request.url s!"unsupported scheme '{url.scheme}'")
    else if !backend.isHostAllowed url.host then throw (.hostNotAllowed url.host)
    else if !isMethod (Text.upper request.method) then
      throw (.other s!"invalid HTTP method '{request.method}'")
    else pure
      { method := Text.upper request.method, url, body := request.body
        userAgent := backend.userAgent }

def call (backend : HttpBackend) (transport : Transport) (request : HttpRequest) :
    Except Failure HttpResponse := do
  transport (← backend.prepare request)

def callback (backend : HttpBackend) (transport : Transport) : HttpCallback :=
  { records := false
    answer := fun _ request =>
      match backend.call transport request with
      | .ok response => .ok response
      | .error failure => .error (failure.message :: failure.sources) }

end HttpBackend

end ScriptSandbox
