import Entitlement.Credential.Provider
import Entitlement.Pool.Settings

/-!
# Pools of a tenant

* `TenantPool` : what new connections are opened with, and the password last installed;
* `TenantPool.connect` : a pool for which no password was fetched yet; `TenantPool.external` : one
  that was built elsewhere, which is left as it is;
* `TenantPool.given?` : the options that take the place of those before, for a password;
* `TenantPool.ask`, `turn`, `arrived`, `dropped` : a call that prepares the pool. The password is
  fetched and installed behind one gate, so an older one never replaces a newer one;
* `TenantPool.step` : any of these events.
-/

namespace Entitlement

structure TenantPool where
  /-- What a password is added to. -/
  base : Option ConnectOptions
  current : ConnectOptions
  limits : PoolLimits
  applied : Option String
  gate : Gate

namespace TenantPool

def connect (s : PoolSettings) (tenant : TenantId) (defaults : ConnectOptions) :
    Except Error TenantPool :=
  if s.maxConnections = 0 then .error (.connection "max_connections must be greater than 0")
  else
    let options := s.options tenant defaults
    .ok ⟨some options, options, s.limits, none, .clear⟩

def external (current : ConnectOptions) (limits : PoolLimits) : TenantPool :=
  ⟨none, current, limits, none, .clear⟩

inductive Event where
  | ask (id : CallId)
  | turn (id : CallId)
  | arrived (id : CallId) (fetched : Except Error String)
  | dropped (id : CallId)

def ask (p : TenantPool) (id : CallId) : TenantPool × Progress Unit :=
  match p.base with
  | none => (p, .answered (.ok ()))
  | some _ => ({ p with gate := p.gate.enter id }, .waits)

def turn (p : TenantPool) (id : CallId) : TenantPool × Progress Unit :=
  if p.gate.mayStart id then ({ p with gate := p.gate.start id }, .fetches) else (p, .ignored)

/-- The options that a pool is given for a password: those it has by itself with the password, if
it was not the last one. -/
def given? (p : TenantPool) (password : String) : Option ConnectOptions :=
  if p.applied = some password then none else p.base.map (·.withPassword password)

def install (p : TenantPool) (password : String) : TenantPool :=
  match p.given? password with
  | some options => { p with current := options, applied := some password }
  | none => p

def noPassword (e : Error) : Error := .connection ("get password: " ++ e.message)

def arrived (p : TenantPool) (id : CallId) (fetched : Except Error String) :
    TenantPool × Progress Unit :=
  if p.gate.works id then
    match fetched with
    | .ok password =>
      ({ p.install password with gate := p.gate.leave id }, .answered (.ok ()))
    | .error e => ({ p with gate := p.gate.leave id }, .answered (.error (noPassword e)))
  else (p, .ignored)

def dropped (p : TenantPool) (id : CallId) : TenantPool := { p with gate := p.gate.leave id }

def step (p : TenantPool) : Event → TenantPool × Progress Unit
  | .ask id => p.ask id
  | .turn id => p.turn id
  | .arrived id fetched => p.arrived id fetched
  | .dropped id => (p.dropped id, .ignored)

/-- The entry for options that are replaced. -/
def installed (p : TenantPool) (tenant : TenantId) : Except Error String → List LogEntry
  | .ok password =>
    if (p.given? password).isSome then
      [.debug "Installed new credential on tenant pool" [("tenant", tenant.text)]]
    else []
  | .error _ => []

end TenantPool

end Entitlement
