import Entitlement.Service.Calls
import Entitlement.Service.Gather

/-!
# Resolving a user

* `Service` : a store, and the longest time that a request may take;
* `Cancellation` : whether and when the caller gives up;
* `Service.spawn` : a task for each part of a request, in a transaction of its own. All parts start
  at once, so one ends after the time that the store takes for it;
* `Service.settle` : the complete view of a user, or the error of whatever ended the request first;
* `Service.resolve` : both, unless the caller gave up before.
-/

namespace Entitlement

structure Service (σ : Type) where
  store : Store σ
  timeout : Option Span

inductive Cancellation where
  | never
  /-- Before the request was made. -/
  | before
  /-- This long after. -/
  | after (instant : Span)
  deriving DecidableEq, Repr

/-- How a request ended, and how long it took. -/
structure Resolution where
  result : Except Error View
  elapsed : Span

namespace Service
variable {σ : Type}

/-- What a part of a request asks. -/
def part (s : Service σ) (r : ViewRequest) : (kind : PartKind) → Run σ kind.Answer
  | .roleMap => s.store.tenantRoleMap r.tenant r.filter
  | .overrides => s.store.userOverrides r.tenant r.user r.filter
  | .roles => s.store.userRoles r.tenant r.user
  | .resources => s.store.userResources r.tenant r.user r.filter
  | .tenantPermissions => s.store.tenantPermissions r.tenant r.filter
  | .userPermissions => s.store.userPermissions r.tenant r.user r.filter

/-- Runs one part, and reads off the store's clock how long it took. -/
def ending (s : Service σ) (r : ViewRequest) (kind : PartKind) (w : World σ) :
    Ending kind.Answer × World σ :=
  let (result, w') := (s.part r kind).run w
  (⟨⟨(s.store.waited w'.state).nanos - (s.store.waited w.state).nanos⟩, result⟩, w')

/-- Starts a task for each part. The first one is the `n`th of the program. -/
def spawn (s : Service σ) (r : ViewRequest) (n : Nat) : List PartKind → World σ →
    List Task × World σ
  | [], w => ([], w)
  | kind :: kinds, w =>
    let (e, w) := s.ending r kind w
    let (tasks, w) := s.spawn r (n + 1) kinds w
    (⟨n, kind, e⟩ :: tasks, w)

def limits (s : Service σ) : Cancellation → Limits
  | .after instant => ⟨some instant, s.timeout⟩
  | _ => ⟨none, s.timeout⟩

def ids (r : ViewRequest) : List (String × String) :=
  [("tenant", r.tenant.text), ("user", r.user.text)]

def started (r : ViewRequest) : LogEntry := .debug "Resolving permissions for user" (ids r)

def resolved (r : ViewRequest) (v : View) : LogEntry :=
  .info "Resolved permissions for user" (ids r ++
    [("roles", Text.decimal v.roles.length),
     ("extra", Text.decimal v.overrides.extra.length),
     ("revoked", Text.decimal v.overrides.revoked.length),
     ("resources", Text.decimal v.resources.length)])

/-- The entry for a part that failed, or for a cancellation that reached the parts. -/
def aborted (r : ViewRequest) (e : Error) : LogEntry :=
  .warn "Permission aggregation failed" (ids r ++ [("error", e.message)])

/-- The entry for a failure. A timeout abandons the parts without a word. -/
def failureLog (r : ViewRequest) : Cause → List LogEntry
  | .timedOut _ => []
  | .failed e => [aborted r e]

/-- Gathers the tasks of a request. -/
def settle (s : Service σ) (r : ViewRequest) (c : Cancellation) (tasks : List Task) (w : World σ) :
    Resolution × World σ :=
  let o := Gather.run (s.limits c) (.start tasks)
  match o.result with
  | .error cause => (⟨.error cause.error, o.instant⟩, w.logged (failureLog r cause))
  | .ok parts =>
    match parts.assemble with
    | .error e => (⟨.error e, o.instant⟩, w)
    | .ok v => (⟨.ok v, o.instant⟩, w.logged [resolved r v])

def resolve (s : Service σ) (r : ViewRequest) (c : Cancellation) (w : World σ) :
    Resolution × World σ :=
  if c = .before then (⟨.error .cancelled, ⟨0⟩⟩, w)
  else
    let (tasks, w) := s.spawn r (w.tasks + 1) (PartKind.asked r) (w.logged [started r])
    s.settle r c tasks { w with tasks := w.tasks + tasks.length }

end Service

end Entitlement
