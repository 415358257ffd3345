import ScriptSandbox.Failure
import ScriptSandbox.Json.Reader
import ScriptSandbox.Json.Writer

/-!
HTTP requests of scripts and the answers of a host, with their JSON forms. Every part of an answer may
be absent. `HttpResponse.read` takes exactly the objects whose known fields have the right types, and
reads back what `HttpResponse.toJson` writes.
-/

namespace ScriptSandbox

/-- A request of a script. Headers are listed by name in ascending order. -/
structure HttpRequest where
  method : String
  url : String
  body : Option String
  headers : List (String × String)
  deriving Repr, DecidableEq

/-- An answer to a request. Headers are listed by name in ascending order. -/
structure HttpResponse where
  status : Option Int
  statusText : Option String
  body : Option String
  headers : List (String × String)
  deriving Repr, DecidableEq

/-- The host's answers: what the n-th call of a callback says to a request. A refusal is a chain of
reports, outermost first. -/
structure HttpCallback where
  answer : Nat → HttpRequest → Except (List String) HttpResponse
  /-- Whether the requests are written down. -/
  records : Bool

def Json.ofTextOption : Option String → Json
  | some value => .text value
  | none => .null

def Json.ofTexts (entries : List (String × String)) : Json :=
  .object (entries.map fun (key, value) => (key, .text value))

namespace HttpRequest

def toJson (request : HttpRequest) : Json :=
  .object [("method", .text request.method), ("url", .text request.url),
    ("body", Json.ofTextOption request.body), ("headers", Json.ofTexts request.headers)]

end HttpRequest

namespace HttpResponse

def empty : HttpResponse :=
  { status := none, statusText := none, body := none, headers := [] }

def ok (body : String) : HttpResponse :=
  { empty with status := some 200, body := some body }

def withStatus (response : HttpResponse) (status : Int) (statusText : String) : HttpResponse :=
  { response with status := some status, statusText := some statusText }

def toJson (response : HttpResponse) : Json :=
  .object [
    ("status", match response.status with
      | some status => .integer status
      | none => .null),
    ("statusText", Json.ofTextOption response.statusText),
    ("body", Json.ofTextOption response.body),
    ("headers", Json.ofTexts response.headers)]

abbrev Reading (α : Type) := Except Mismatch α

def found : Json → Found
  | .null => .null
  | .boolean value => .boolean value
  | .integer value => .integer value
  | .float value => .float value
  | .text value => .text value
  | .array _ => .sequence
  | .object _ => .map

def readStatus : Json → Reading (Option Int)
  | .null => .ok none
  | .integer value =>
    if -0x80000000 ≤ value ∧ value < 0x80000000 then .ok (some value)
    else .error (.outOfRange (.integer value) "i32")
  | other => .error (.wrongType (found other) "i32")

def readText : Json → Reading String
  | .text value => .ok value
  | other => .error (.wrongType (found other) "a string")

def readTextOption : Json → Reading (Option String)
  | .null => .ok none
  | other => (readText other).map some

def readHeaders : Json → Reading (List (String × String))
  | .object entries => entries.mapM fun (key, value) => (readText value).map (key, ·)
  | other => .error (.wrongType (found other) "a map")

def setField (response : HttpResponse) (field : String × Json) : Reading HttpResponse :=
  match field.1 with
  | "status" => return { response with status := ← readStatus field.2 }
  | "statusText" => return { response with statusText := ← readTextOption field.2 }
  | "body" => return { response with body := ← readTextOption field.2 }
  | "headers" => return { response with headers := ← readHeaders field.2 }
  | _ => return response

def read (text : String) : Except JsonFault HttpResponse :=
  match Json.parse? text with
  | none => throw .malformed
  | some (.object entries) =>
    match entries.foldlM setField empty with
    | .ok response => pure response
    | .error complaint => throw (.mismatch complaint)
  | some _ => throw (.mismatch (.other "HTTP response must be a JSON object"))

end HttpResponse

end ScriptSandbox
