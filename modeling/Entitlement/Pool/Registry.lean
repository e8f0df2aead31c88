import Entitlement.Gate
import Entitlement.Identity
import Entitlement.Log
import Entitlement.Text.Digits

/-!
# The registry of pools

* `Registry` : at most one pool a tenant, and the calls whose pool is being prepared;
* `Registry.Request` : what a registry asks of whoever makes pools;
* `Registry.get` : a call for a tenant's pool, and what it asks; only a tenant without one is
  connected, and a connection that fails is not kept;
* `Registry.prepared` : a call whose pool is ready, or could not be made ready;
* `Registry.register` : a pool from elsewhere, for a tenant that has none;
* `Registry.step`, `Registry.requests` : any of these events, and what it asks.
-/

namespace Entitlement

structure PoolEntry (π : Type) where
  tenant : TenantId
  pool : π

/-- A call that waits for a pool to be prepared. -/
structure Preparing (π : Type) where
  id : CallId
  tenant : TenantId
  pool : π

structure Registry (π : Type) where
  pools : Table (PoolEntry.tenant : PoolEntry π → TenantId)
  calls : Table (Preparing.id : Preparing π → CallId)

namespace Registry
variable {π : Type}

def empty : Registry π := ⟨.empty, .empty⟩

/-- What a call for a pool comes to at first. -/
inductive Found (π : Type) where
  /-- The tenant has this pool. -/
  | existing (pool : π)
  | created (pool : π)
  | failed (e : Error)

/-- The pool that is to be prepared. -/
def Found.pool? : Found π → Option π
  | existing pool | created pool => some pool
  | failed _ => none

inductive Request (π : Type) where
  | connect (tenant : TenantId)
  | prepare (tenant : TenantId) (pool : π)

def Request.isConnect : Request π → Bool
  | connect _ => true
  | prepare .. => false

/-- The registry after a call for a pool, what the call has found, and what was asked for it, in
order. -/
structure Lookup (π : Type) where
  registry : Registry π
  found : Found π
  requests : List (Request π)

inductive Event (π : Type) where
  /-- With what connecting would come to, should it be tried. -/
  | get (id : CallId) (tenant : TenantId) (connect : Except Error π)
  | prepared (id : CallId) (result : Except Error Unit)
  | dropped (id : CallId)
  | register (tenant : TenantId) (pool : π)

def pool? (r : Registry π) (tenant : TenantId) : Option π :=
  (r.pools.find? tenant).map PoolEntry.pool

def contains (r : Registry π) (tenant : TenantId) : Bool := r.pools.contains tenant

def size (r : Registry π) : Nat := r.pools.size

def isEmpty (r : Registry π) : Bool := r.pools.isEmpty

def found (r : Registry π) (tenant : TenantId) (connect : Except Error π) : Found π :=
  match r.pool? tenant with
  | some pool => .existing pool
  | none =>
    match connect with
    | .ok pool => .created pool
    | .error e => .failed e

def get (r : Registry π) (id : CallId) (tenant : TenantId) (connect : Except Error π) :
    Lookup π :=
  match r.found tenant connect with
  | .existing pool =>
    ⟨{ r with calls := r.calls.put ⟨id, tenant, pool⟩ }, .existing pool, [.prepare tenant pool]⟩
  | .created pool =>
    ⟨⟨r.pools.put ⟨tenant, pool⟩, r.calls.put ⟨id, tenant, pool⟩⟩, .created pool,
      [.connect tenant, .prepare tenant pool]⟩
  | .failed e => ⟨r, .failed e, [.connect tenant]⟩

/-- The entry for a pool that was created. -/
def created (r : Registry π) (tenant : TenantId) : Found π → List LogEntry
  | .created _ =>
    [.info "Created tenant connection pool"
      [("tenant", tenant.text), ("pools", Text.decimal r.size)]]
  | _ => []

/-- The answer to a call: its pool, if it was made ready. -/
def prepared (r : Registry π) (id : CallId) (result : Except Error Unit) :
    Registry π × Option (Except Error π) :=
  match r.calls.find? id with
  | some call => ({ r with calls := r.calls.erase id }, some (result.map fun _ => call.pool))
  | none => (r, none)

def dropped (r : Registry π) (id : CallId) : Registry π := { r with calls := r.calls.erase id }

/-- Says whether the tenant had none. -/
def register (r : Registry π) (tenant : TenantId) (pool : π) : Registry π × Bool :=
  if r.contains tenant then (r, false) else ({ r with pools := r.pools.put ⟨tenant, pool⟩ }, true)

def step (r : Registry π) : Event π → Registry π
  | .get id tenant connect => (r.get id tenant connect).registry
  | .prepared id result => (r.prepared id result).1
  | .dropped id => r.dropped id
  | .register tenant pool => (r.register tenant pool).1

def requests (r : Registry π) : Event π → List (Request π)
  | .get id tenant connect => (r.get id tenant connect).requests
  | _ => []

end Registry

end Entitlement
