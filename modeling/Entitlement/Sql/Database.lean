import Entitlement.Pool.Settings
import Entitlement.Sql.Row
import Entitlement.Sql.Statement

/-!
# Databases

* `Database` : answers each statement, whatever its parameters, with fixed rows or a fixed error;
* `Database.query` : the rows that answer a query, read;
* `Database.children` : the identifiers that children can have;
* `Seen`, `Session` : what a database was asked, in order.
-/

namespace Entitlement

/-- The rows for a statement, with other columns than those it selects if it says so. -/
structure Rows where
  columns : Option (List String)
  cells : List (List (Option String))

structure Database where
  rows : List (String × Rows)
  errors : List (String × String)

namespace Database

/-- The error of a step, given the name that its statement goes by. -/
def check (db : Database) (name step : String) : Except Error Unit :=
  match db.errors.lookup name with
  | some text => .error (.query step ("error returned from database: " ++ text))
  | none => .ok ()

def sqlRows (db : Database) (q : Query) : List SqlRow :=
  match db.rows.lookup q.table with
  | some r => r.cells.map fun cells => ⟨r.columns.getD q.aliases, cells⟩
  | none => []

/-- The identifiers of the rows that hold roles. -/
def roleIds (rows : List SqlRow) : List RoleId :=
  rows.filterMap fun r => (Role.ofRow r).toOption.map Role.id

def children (db : Database) : List RoleId := roleIds (db.sqlRows (.childRoles []))

theorem id_mem_roleIds {rows : List SqlRow} {r : SqlRow} {role : Role} (hr : r ∈ rows)
    (h : Role.ofRow r = .ok role) : role.id ∈ roleIds rows :=
  List.mem_filterMap.2 ⟨r, hr, by rw [h]; rfl⟩

/-- A child's identifier is one that children can have. -/
def childRow (rows : List SqlRow) (r : { r : SqlRow // r ∈ rows }) :
    Except RowError { role : Role // role.id ∈ roleIds rows } :=
  match h : Role.ofRow r.1 with
  | .ok role => .ok ⟨role, id_mem_roleIds r.2 h⟩
  | .error e => .error e

def read (db : Database) : (q : Query) → Except RowError (List (q.Row db.children))
  | .tenantPermissions f => (db.sqlRows (.tenantPermissions f)).mapM Permission.ofRow
  | .tenantRoles => (db.sqlRows .tenantRoles).mapM Role.ofRow
  | .userRoles user => (db.sqlRows (.userRoles user)).mapM Role.ofRow
  | .childRoles _ =>
    (db.sqlRows (.childRoles [])).attach.mapM (childRow (db.sqlRows (.childRoles [])))
  | .rolePermissions roles f => (db.sqlRows (.rolePermissions roles f)).mapM Permission.ofRow
  | .overrides user f => (db.sqlRows (.overrides user f)).mapM OverrideRow.ofRow
  | .resources user f => (db.sqlRows (.resources user f)).mapM Resource.ofRow

def query (db : Database) (q : Query) : Except Error (List (q.Row db.children)) := do
  db.check q.table ("query " ++ q.table)
  (db.read q).mapError fun e => .query ("scan " ++ q.table) e.message

end Database

/-! ## Sessions -/

/-- What reaches a database. -/
inductive Seen where
  | connect (options : ConnectOptions)
  /-- The beginning or the end of a transaction. -/
  | command (sql : String)
  | statement (s : Statement)

structure Session where
  seen : List Seen
  /-- The databases that were connected to. -/
  connected : List String

namespace Session

def empty : Session := ⟨[], []⟩

def saw (s : Session) (entry : Seen) : Session := { s with seen := s.seen ++ [entry] }

/-- Only the first connection to a database is seen. -/
def connect (s : Session) (o : ConnectOptions) : Session :=
  if s.connected.contains o.database then s
  else { s.saw (.connect o) with connected := o.database :: s.connected }

end Session

end Entitlement
