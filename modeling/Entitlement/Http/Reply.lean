import Entitlement.Error
import Entitlement.Json.Printer
import Entitlement.Wire.Response

/-!
# Replies

* `Reply` : a status, and a body if it is JSON; `Reply.ofError` : the reply to a request that
  failed, `Reply.ofReject` : to a body that was not read.
-/

namespace Entitlement

structure Reply where
  status : Nat
  json : Option String
  deriving DecidableEq, Repr

namespace Reply
open Json

/-- A reply whose body says nothing. -/
def plain (status : Nat) : Reply := ⟨status, none⟩

def version : String := "0.1.0"

def healthy (uptime : Nat) : Reply :=
  ⟨200, some (String.ofList (object
    [("status", string "healthy"), ("uptime_seconds", (Text.decimal uptime).toList),
     ("version", string version)]))⟩

def ofResponse (r : Response) : Reply := ⟨200, some r.render⟩

/-- A fault of the request is a bad request; anything else is the service's own. -/
def ofError (e : Error) : Reply :=
  let (status, kind) := if e.isRequestFault then (400, "bad_request") else (500, "resolution_error")
  ⟨status, some (String.ofList (object [("error", string kind), ("message", string e.message)]))⟩

def ofReject : Reject → Reply
  | .unfit => plain 422
  | .malformed | .truncated => plain 400

end Reply

end Entitlement
