import Entitlement.Role.Build
import Entitlement.Role.Closure

/-!
# Single calls

* `Store.tenantPermissions`, `userRoles`, `userOverrides`, `userResources`, `tenantRoleMap`,
  `userPermissions` : one question each, in a transaction of its own.
-/

namespace Entitlement.Store
variable {σ : Type} (store : Store σ) (tenant : TenantId)

def tenantPermissions (f : Filter) : Run σ (List Permission) :=
  Run.context "get tenant permissions" <|
    store.transact tenant fun tx => tx.query (.tenantPermissions f)

/-- The assigned and the inherited roles. -/
def userRoles (user : UserId) : Run σ (List Role) :=
  Run.context "get user roles" <| store.transact tenant fun tx => resolveRoles tx user

def userOverrides (user : UserId) (f : Filter) : Run σ Overrides :=
  Run.context "get user permission overrides" <| store.transact tenant fun tx => do
    let rows ← tx.query (.overrides user f)
    Run.ofResult (Overrides.partition rows)

def userResources (user : UserId) (f : Filter) : Run σ (List Resource) :=
  Run.context "get user resources" <| store.transact tenant fun tx => tx.query (.resources user f)

def tenantRoleMap (f : Filter) : Run σ RoleMap :=
  Run.context "get tenant role map" <| store.transact tenant fun tx => buildRoleMap tx f

/-- The permissions that any of the user's roles grants. -/
def userPermissions (user : UserId) (f : Filter) : Run σ (List Permission) :=
  Run.context "get user permissions" <| store.transact tenant fun tx => do
    let roles ← resolveRoles tx user
    if roles.isEmpty then return []
    tx.query (.rolePermissions (Role.ids roles) f)

end Entitlement.Store
