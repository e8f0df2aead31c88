import Entitlement.Http.MediaType
import Entitlement.Http.Reply
import Entitlement.Service.Resolve
import Entitlement.Text.Utf8
import Entitlement.Wire.Request

/-!
# The service over HTTP

* `HttpRequest` : what of a request decides its reply; `HttpRequest.readBody` : what its body asks
  for, or the reply to a body that is not read;
* `Service.answerPermissions` : the reply to a request for a user's permissions;
* `Service.handle` : the reply to any request, by its path and method.
-/

namespace Entitlement

structure HttpRequest where
  method : String
  /-- The path, and after a question mark a query. -/
  target : String
  contentType : Option String
  body : List UInt8

/-- The target up to its query. -/
def HttpRequest.path (r : HttpRequest) : String :=
  String.ofList (r.target.toList.takeWhile fun c => c ≠ '?' ∧ c ≠ '#')

def HttpRequest.isJson (r : HttpRequest) : Bool :=
  ((r.contentType.bind MediaType.parse?).map MediaType.isJson).getD false

/-- The longest body that is read, in bytes. -/
def HttpRequest.bodyLimit : Nat := 2097152

/-- The body has to be JSON, is read up to its limit, and has to start with a request. -/
def HttpRequest.readBody (r : HttpRequest) : Except Reply RequestBody :=
  if !r.isJson then .error (.plain 415)
  else if bodyLimit < r.body.length then .error (.plain 413)
  else (RequestBody.reader.startOfInput (Text.Utf8.decode r.body)).mapError .ofReject

namespace Service
variable {σ : Type}

/-- Resolves the request that a body holds. -/
def answerBody (s : Service σ) (body : RequestBody) (w : World σ) (order : NodeOrder := .stored) :
    Reply × World σ :=
  match body.request with
  | .error e => (.ofError e, w)
  | .ok r =>
    let (resolution, w) := s.resolve r .never w
    match resolution.result with
    | .ok v => (.ofResponse (.ofView r.tenant r.user (some v) order), w)
    | .error e => (.ofError e, w)

def answerPermissions (s : Service σ) (r : HttpRequest) (w : World σ)
    (order : NodeOrder := .stored) : Reply × World σ :=
  match r.readBody with
  | .error reply => (reply, w)
  | .ok body => s.answerBody body w order

def handle (s : Service σ) (uptime : Nat) (r : HttpRequest) (w : World σ)
    (order : NodeOrder := .stored) : Reply × World σ :=
  if r.path = "/health" then
    if r.method = "GET" then (.healthy uptime, w)
    else if r.method = "HEAD" then (.plain 200, w)
    else (.plain 405, w)
  else if r.path = "/v1/permissions" then
    if r.method = "POST" then s.answerPermissions r w order else (.plain 405, w)
  else (.plain 404, w)

end Service

end Entitlement
