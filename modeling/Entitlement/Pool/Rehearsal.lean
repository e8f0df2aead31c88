import Entitlement.Credential.Source
import Entitlement.Pool.Registry
import Entitlement.Pool.TenantPool

/-!
# Rehearsals

* `Rehearsal` : a registry of pools and their password source on a clock of their own, which moves
  only when no call can go on;
* `Caller` : a call for a token or for a tenant's pool, and how far it has come;
* `Rehearsal.poll` : brings a call as far as it can come now;
* `Rehearsal.settle` : polls the calls in order, again and again, until each one is answered or
  waits for what never comes;
* `Rehearsal.answer` : the calls made together, answered;
* `Rehearsal.options` : what a tenant's pool connects with.
-/

namespace Entitlement

inductive Goal where
  | password
  | pool (tenant : TenantId)

inductive CallPhase where
  | coming
  /-- Waits for the gate of its pool. -/
  | atPool (pool : Nat)
  /-- Goes to the password source. -/
  | asking
  /-- Waits for the gate of the source. -/
  | atSource
  | fetching (due : Span) (result : Except Error String)
  | done (result : Except Error String)

namespace CallPhase

/-- How many phases may still follow. -/
def rank : CallPhase → Nat
  | coming => 5
  | atPool _ => 4
  | asking => 3
  | atSource => 2
  | fetching .. => 1
  | done _ => 0

def due? : CallPhase → Option Nat
  | fetching due _ => some due.nanos
  | _ => none

def result? : CallPhase → Option (Except Error String)
  | done r => some r
  | _ => none

end CallPhase

structure Caller where
  id : CallId
  goal : Goal
  /-- The pool that it was given to prepare. -/
  pool : Option Nat
  phase : CallPhase

def Caller.become (c : Caller) (phase : CallPhase) : Caller := { c with phase }

structure Rehearsal where
  settings : PoolSettings
  /-- What the driver sets by itself. -/
  defaults : ConnectOptions
  source : PasswordSource
  registry : Registry Nat
  /-- The pools by the numbers that the registry keeps. -/
  pools : List TenantPool
  clock : Span
  /-- The time of day, by which tokens expire. -/
  now : Moment
  log : List LogEntry
  nextId : CallId

namespace Rehearsal

def start (settings : PoolSettings) (source : PasswordSource) (now : Moment)
    (defaults : ConnectOptions := .unset) : Rehearsal :=
  ⟨settings, defaults, source, .empty, [], ⟨0⟩, now, [], 0⟩

def logged (w : Rehearsal) (entries : List LogEntry) : Rehearsal :=
  { w with log := w.log ++ entries }

def setPool (w : Rehearsal) (n : Nat) (p : TenantPool) : Rehearsal :=
  { w with pools := w.pools.set n p }

/-- A call that comes for a pool gets it from the registry, connected if need be. -/
def enter (w : Rehearsal) (c : Caller) (tenant : TenantId) : Rehearsal × Caller :=
  let made := TenantPool.connect w.settings tenant w.defaults
  let ⟨registry, found, _⟩ := w.registry.get c.id tenant (made.map fun _ => w.pools.length)
  let pools := match found, made with
    | .created _, .ok p => w.pools ++ [p]
    | _, _ => w.pools
  let w := { w with registry, pools }.logged (registry.created tenant found)
  match found with
  | .failed e => (w, c.become (.done (.error e)))
  | .existing n | .created n =>
    match w.pools[n]? with
    | none => (w, c)
    | some p =>
      let (p, progress) := p.ask c.id
      (w.setPool n p, { c with pool := some n, phase := match progress with
        | .answered r => .done (r.map fun _ => "")
        | _ => .atPool n })

def come (w : Rehearsal) (c : Caller) : Rehearsal × Caller :=
  match c.phase, c.goal with
  | .coming, .password => (w, c.become .asking)
  | .coming, .pool tenant => w.enter c tenant
  | _, _ => (w, c)

def takeTurn (w : Rehearsal) (c : Caller) : Rehearsal × Caller :=
  match c.phase with
  | .atPool n =>
    match w.pools[n]? with
    | none => (w, c)
    | some p =>
      match p.turn c.id with
      | (p, .fetches) => (w.setPool n p, c.become .asking)
      | _ => (w, c)
  | _ => (w, c)

/-- The password, or the error instead of it, has reached the call. -/
def deliver (w : Rehearsal) (c : Caller) (r : Except Error String) : Rehearsal × Caller :=
  match c.goal, c.pool, c.pool.bind fun n => w.pools[n]? with
  | .pool tenant, some n, some p =>
    let entries := p.installed tenant r
    match p.arrived c.id r with
    | (p, .answered result) =>
      ((w.setPool n p).logged entries, c.become (.done (result.map fun _ => "")))
    | _ => (w, c)
  | _, _, _ => (w, c.become (.done r))

def fetch (w : Rehearsal) (c : Caller) (f : Fetch) : Rehearsal × Caller :=
  (w, c.become (.fetching (w.clock + f.delay) f.result))

def askSource (w : Rehearsal) (c : Caller) : Rehearsal × Caller :=
  match c.phase, w.source with
  | .asking, .fixed password => w.deliver c (.ok password)
  | .asking, .direct tokens =>
    { w with source := .direct (tokens.next w.now).2 }.fetch c (tokens.next w.now).1
  | .asking, .cached tokens provider =>
    match provider.ask c.id w.now with
    | (_, .answered r) => w.deliver c r
    | (provider, _) => ({ w with source := .cached tokens provider }, c.become .atSource)
  | _, _ => (w, c)

def lookAgain (w : Rehearsal) (c : Caller) : Rehearsal × Caller :=
  match c.phase, w.source with
  | .atSource, .cached tokens provider =>
    match provider.turn c.id w.now with
    | (provider, .answered r) => { w with source := .cached tokens provider }.deliver c r
    | (provider, .fetches) =>
      { w with source := .cached (tokens.next w.now).2 provider }.fetch c (tokens.next w.now).1
    | _ => (w, c)
  | _, _ => (w, c)

def collect (w : Rehearsal) (c : Caller) : Rehearsal × Caller :=
  match c.phase with
  | .fetching due r =>
    if due.nanos ≤ w.clock.nanos then
      match w.source with
      | .cached tokens provider =>
        match provider.arrived c.id r with
        | (provider, .answered result) =>
          ({ w with source := .cached tokens provider }.logged (Provider.refreshed r)).deliver c
            result
        | _ => (w, c)
      | _ => w.deliver c r
    else (w, c)
  | _ => (w, c)

def poll (w : Rehearsal) (c : Caller) : Rehearsal × Caller :=
  [come, takeTurn, askSource, lookAgain, collect].foldl (fun s f => f s.1 s.2) (w, c)

def sweep (w : Rehearsal) : List Caller → Rehearsal × List Caller
  | [] => (w, [])
  | c :: cs =>
    let (w, c) := w.poll c
    let (w, cs) := w.sweep cs
    (w, c :: cs)

/-- The clock at the next instant at which something arrives. -/
def wait (w : Rehearsal) (cs : List Caller) : Rehearsal :=
  match (cs.filterMap fun c => c.phase.due?).min? with
  | some due => { w with clock := ⟨due⟩ }
  | none => w

/-- How many phases lie before all of the calls. -/
def work (cs : List Caller) : Nat := (cs.map fun c => c.phase.rank).foldl (· + ·) 0

def settle (w : Rehearsal) (cs : List Caller) : Rehearsal × List Caller :=
  let now := w.sweep cs
  if _h : work now.2 < work cs then now.1.settle now.2
  else
    let later := (w.wait cs).sweep cs
    if _h : work later.2 < work cs then later.1.settle later.2 else (w, cs)
termination_by work cs

def callers (w : Rehearsal) (goals : List Goal) : List Caller :=
  goals.mapIdx fun i g => ⟨w.nextId + i, g, none, .coming⟩

def answer (w : Rehearsal) (goals : List Goal) : Rehearsal × List Caller :=
  { w with nextId := w.nextId + goals.length }.settle (w.callers goals)

/-- A pool from elsewhere, to be registered for a tenant. -/
def register (w : Rehearsal) (tenant : TenantId) (p : TenantPool) : Rehearsal × Bool :=
  let (registry, new) := w.registry.register tenant w.pools.length
  if new then ({ w with registry, pools := w.pools ++ [p] }, true) else (w, false)

/-- The options that a tenant's pool connects with, once it is made ready. -/
def options (w : Rehearsal) (tenant : TenantId) : Rehearsal × Except Error ConnectOptions :=
  let (w, callers) := w.answer [.pool tenant]
  match callers.head? with
  | some ⟨_, _, some n, .done (.ok _)⟩ =>
    match w.pools[n]? with
    | some p => (w, .ok p.current)
    | none => (w, .error (.internal "no pool"))
  | some ⟨_, _, _, .done (.error e)⟩ => (w, .error e)
  | _ => (w, .error (.internal "no pool"))

end Rehearsal

end Entitlement
