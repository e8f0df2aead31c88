import Entitlement.Filter
import Entitlement.Identity
import Entitlement.Log
import Entitlement.Override

/-!
# Queries

* `Query` : what can be asked inside a transaction; `Query.name` : its name in records;
* `Query.Row` : what it is answered with. Children are rows of a known set of roles, so that a walk
  along the answers ends;
* `Step`, `Journal` : what was done in transactions, and what was logged, in order.
-/

namespace Entitlement

inductive Query where
  /-- The tenant's permissions that match a filter. -/
  | tenantPermissions (filter : Filter)
  /-- All roles of the tenant. -/
  | tenantRoles
  /-- The roles assigned to a user, one row an assignment. -/
  | userRoles (user : UserId)
  /-- The immediate children of any of some roles, one row an edge. -/
  | childRoles (parents : List RoleId)
  /-- The permissions granted to any of some roles that match a filter, each once. -/
  | rolePermissions (roles : List RoleId) (filter : Filter)
  /-- The overrides of a user whose permissions match a filter. -/
  | overrides (user : UserId) (filter : Filter)
  /-- The resources of a user whose types match a filter. -/
  | resources (user : UserId) (filter : Filter)
  deriving DecidableEq

namespace Query

def Row (known : List RoleId) : Query → Type
  | tenantPermissions _ | rolePermissions .. => Permission
  | tenantRoles | userRoles _ => Role
  | childRoles _ => { r : Role // r.id ∈ known }
  | overrides .. => OverrideRow
  | resources .. => Resource

def name : Query → String
  | tenantPermissions _ => "tenant_permissions"
  | tenantRoles => "tenant_roles"
  | userRoles _ => "user_roles"
  | childRoles _ => "child_roles"
  | rolePermissions .. => "role_permissions"
  | overrides .. => "user_permission_overrides"
  | resources .. => "user_resources"

end Query

inductive Step where
  | begin (tenant : TenantId)
  | query (q : Query)
  | commit
  | rollback
  deriving DecidableEq

def Step.name : Step → String
  | begin _ => "begin"
  | query q => q.name
  | commit => "commit"
  | rollback => "rollback"

structure Journal where
  steps : List Step
  log : List LogEntry

namespace Journal

def empty : Journal := ⟨[], []⟩

/-- How many steps of a name were taken. -/
def count (j : Journal) (name : String) : Nat := j.steps.countP (·.name = name)

end Journal

end Entitlement
