import Entitlement.Time.Span

/-!
# Errors

* `Error` : why a request cannot be answered;
* `Error.context` : the error inside the operation it ended; `Error.root` : the cause under all
  operations; `Error.message` : the operations from the outside in, then the cause;
* `Error.isRequestFault` : the request, not the service, is at fault.
-/

namespace Entitlement

inductive Error where
  | missingTenant
  | missingUser
  | connection (text : String)
  | credential (text : String)
  | query (step text : String)
  | unknownOverride (kind : String)
  | operation (name : String) (cause : Error)
  | cancelled
  | timeout (limit : Span)
  | configuration (text : String)
  | internal (text : String)
  deriving DecidableEq, Repr

namespace Error

def message : Error → String
  | missingTenant => "tenant ID not found in request"
  | missingUser => "user ID not found in request"
  | connection text => "Connection error: " ++ text
  | credential text => "Credential error: " ++ text
  | query step text => step ++ ": " ++ text
  | unknownOverride kind => "unknown permission type: " ++ kind
  | operation name cause => name ++ ": " ++ cause.message
  | cancelled => "request cancelled"
  | timeout limit => "request timed out after " ++ limit.text
  | configuration text => "Configuration error: " ++ text
  | internal text => "Internal error: " ++ text

def context (e : Error) (name : String) : Error := operation name e

def root : Error → Error
  | operation _ cause => cause.root
  | e => e

/-- The operation wrapped around the error from the outside in. -/
def operations : Error → List String
  | operation name cause => name :: cause.operations
  | _ => []

/-- The error that the outermost operation ended with. -/
def source? : Error → Option Error
  | operation _ cause => some cause
  | _ => none

def isRequestFault (e : Error) : Bool :=
  match e.root with
  | missingTenant | missingUser => true
  | _ => false

@[simp] theorem root_context (e : Error) (name : String) : (e.context name).root = e.root := rfl

end Error

end Entitlement
