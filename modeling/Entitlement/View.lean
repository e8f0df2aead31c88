import Entitlement.Filter
import Entitlement.Fresh
import Entitlement.Identity
import Entitlement.Override
import Entitlement.Role.Map

/-!
# What one user may do

* `ViewRequest` : whose permissions are asked for, about what, with which projections;
* `View` : all that was resolved about a user;
* `View.effective` : the permissions of the roles and the extra ones, without the revoked ones.
-/

namespace Entitlement

structure ViewRequest where
  tenant : TenantId
  user : UserId
  filter : Filter
  /-- Also the tenant's own list of permissions. -/
  withTenantPermissions : Bool
  /-- Also the list of the permissions that the user's roles grant. -/
  withUserPermissions : Bool

structure View where
  /-- The assigned roles and then the inherited ones, each once. -/
  roles : List Role
  overrides : Overrides
  resources : List Resource
  roleMap : RoleMap
  tenantPermissions : Option (List Permission)
  userPermissions : Option (List Permission)

namespace View

/-- The permissions of the nodes of the roles, in order. -/
def granted (v : View) : List Permission :=
  v.roles.flatMap fun r => ((v.roleMap.find? r.id).map (·.permissions)).getD []

/-- A revoked identifier is left out whatever grants it. -/
def effective (v : View) : List Permission :=
  sortByName Permission.key
    (fresh Permission.id (v.overrides.revoked.map (·.id)) (v.granted ++ v.overrides.extra))

def hasRole (v : View) (name : String) : Bool := v.roles.any (·.name = name)

end View

end Entitlement
