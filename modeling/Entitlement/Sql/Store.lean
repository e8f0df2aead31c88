import Entitlement.Pool.Rehearsal
import Entitlement.Sql.Database
import Entitlement.Store.Transaction

/-!
# The store over tenant databases

* `Backend` : the pools of the tenants, and what their databases were asked;
* `Database.begin` : a read-only transaction on a tenant's database, over its pool;
* `Database.transaction` : queries, a commit, a rollback, one statement each;
* `Database.store` : the store.
-/

namespace Entitlement

structure Backend where
  pools : Rehearsal
  session : Session

namespace Backend

def ofPools (pools : Rehearsal) : Backend := ⟨pools, .empty⟩

def saw (b : Backend) (entry : Seen) : Backend := { b with session := b.session.saw entry }

end Backend

namespace Database
variable (db : Database)

def ask (q : Query) (b : Backend) : Except Stop (List (q.Row db.children)) × Backend :=
  match q.statement? with
  | none => (.ok [], b)
  | some s => ((db.query q).mapError .failed, b.saw (.statement s))

/-- A step that is a command of its own. -/
def command (sql name : String) (b : Backend) : Except Stop Unit × Backend :=
  ((db.check name name).mapError .failed, b.saw (.command sql))

def transaction : Transaction Backend where
  known := db.children
  ask := db.ask
  commit := db.command "COMMIT" "commit"
  rollback := db.command "ROLLBACK" "rollback"

/-- Opens a transaction on a connection. -/
def openOn (o : ConnectOptions) (b : Backend) : Except Error Unit × Backend :=
  let b := { b with session := b.session.connect o }
  match db.check "connect" "begin" with
  | .error e => (.error e, b)
  | .ok () =>
    let b := b.saw (.command "BEGIN")
    match db.check "begin" "begin" with
    | .error e => (.error e, b)
    | .ok () => (db.check "set" "set transaction read only", b.saw (.statement .readOnly))

def begin (tenant : TenantId) (b : Backend) : Except Stop (Transaction Backend) × Backend :=
  let (pools, options) := b.pools.options tenant
  let b := { b with pools }
  match options with
  | .error e => (.error (.failed e), b)
  | .ok o =>
    let (opened, b) := db.openOn o b
    ((opened.mapError .failed).map fun _ => db.transaction, b)

def store : Store Backend where
  begin := db.begin
  waited b := b.pools.clock

end Database

end Entitlement
