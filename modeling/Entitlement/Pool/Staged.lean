import Entitlement.Pool.Registry

/-!
# Staged connections

* `Staged` : for some tenants, how often connecting or preparing fails before it succeeds, and how
  often each was tried;
* `Staged.connect`, `Staged.prepare` : one more try;
* `Staged.get` : calls for pools made together. All of them are connected before any is prepared.
-/

namespace Entitlement

/-- The first tries that fail, and how. -/
structure Refusals where
  tenant : TenantId
  times : Nat
  error : Error

/-- Tries, counted by tenant. -/
structure Tries where
  tenant : TenantId
  count : Nat

/-- The tries so far, of which some are to fail. -/
structure Trials where
  refusals : List Refusals
  tries : Table Tries.tenant

namespace Trials

def ofRefusals (refusals : List Refusals) : Trials := ⟨refusals, .empty⟩

def count (p : Trials) (tenant : TenantId) : Nat := ((p.tries.find? tenant).map Tries.count).getD 0

/-- One more try, with its number if it succeeds. -/
def attempt (p : Trials) (tenant : TenantId) : Trials × Except Error Nat :=
  let n := p.count tenant + 1
  ({ p with tries := p.tries.put ⟨tenant, n⟩ },
    match p.refusals.find? fun r => r.tenant = tenant with
    | some r => if n ≤ r.times then .error r.error else .ok n
    | none => .ok n)

end Trials

structure Staged where
  connects : Trials
  prepares : Trials
  registry : Registry String
  log : List LogEntry
  nextId : CallId

namespace Staged

def poolName (tenant : TenantId) (n : Nat) : String :=
  "pool-" ++ tenant.text ++ "-" ++ Text.decimal n

/-- A call gets its pool. A try at connecting counts if the registry asks for it. -/
def connect (s : Staged) (tenant : TenantId) : Staged × (CallId × Registry.Found String) :=
  let (connects, made) := s.connects.attempt tenant
  let ⟨registry, found, requests⟩ := s.registry.get s.nextId tenant (made.map (poolName tenant))
  ({ s with
      connects := if requests.any (·.isConnect) then connects else s.connects
      registry
      log := s.log ++ registry.created tenant found
      nextId := s.nextId + 1 },
    (s.nextId, found))

def prepare (s : Staged) (tenant : TenantId) (id : CallId) :
    Registry.Found String → Staged × Except Error String
  | .failed e => (s, .error e)
  | .existing pool | .created pool =>
    let (prepares, ready) := s.prepares.attempt tenant
    let (registry, result) := s.registry.prepared id (ready.map fun _ => ())
    ({ s with prepares, registry }, result.getD (.ok pool))

def connectAll (s : Staged) :
    List TenantId → Staged × List (TenantId × CallId × Registry.Found String)
  | [] => (s, [])
  | t :: ts =>
    let (s, found) := s.connect t
    let (s, rest) := s.connectAll ts
    (s, (t, found) :: rest)

def prepareAll (s : Staged) :
    List (TenantId × CallId × Registry.Found String) → Staged × List (Except Error String)
  | [] => (s, [])
  | (t, id, found) :: rest =>
    let (s, result) := s.prepare t id found
    let (s, results) := s.prepareAll rest
    (s, result :: results)

def get (s : Staged) (tenants : List TenantId) : Staged × List (Except Error String) :=
  let (s, found) := s.connectAll tenants
  s.prepareAll found

def register (s : Staged) (tenant : TenantId) (pool : String) : Staged × Bool :=
  let (registry, new) := s.registry.register tenant pool
  ({ s with registry }, new)

end Staged

end Entitlement
