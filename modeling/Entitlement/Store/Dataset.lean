import Entitlement.Store.Query
import Entitlement.Table

/-!
# The data of one tenant

* `Dataset` : roles and permissions by identifier, and the relations between them and the users as
  rows, which may name roles and permissions that do not exist;
* `Dataset.addRole`, `addPermission`, `grant`, `inherit`, `assign`, `override`, `addResource` : one
  more row; a role or permission takes the place of the one with its identifier;
* `Dataset.answer` : the answer to a query.
-/

namespace Entitlement

structure Dataset where
  roles : Table Role.id
  /-- Every permission is enabled for the tenant. -/
  permissions : Table Permission.id
  grants : List (RoleId × PermissionId)
  /-- From a role to the roles it inherits from. -/
  edges : List (RoleId × RoleId)
  assignments : List (UserId × RoleId)
  overrides : List (UserId × PermissionId × String)
  resources : List (UserId × Resource)

namespace Dataset

def empty : Dataset := ⟨.empty, .empty, [], [], [], [], []⟩

/-! ## Building -/

def addRole (d : Dataset) (r : Role) : Dataset := { d with roles := d.roles.put r }

def addPermission (d : Dataset) (p : Permission) : Dataset :=
  { d with permissions := d.permissions.put p }

def grant (d : Dataset) (role : RoleId) (permission : PermissionId) : Dataset :=
  { d with grants := d.grants ++ [(role, permission)] }

def inherit (d : Dataset) (parent child : RoleId) : Dataset :=
  { d with edges := d.edges ++ [(parent, child)] }

def assign (d : Dataset) (user : UserId) (role : RoleId) : Dataset :=
  { d with assignments := d.assignments ++ [(user, role)] }

/-- The kind is kept as it is given, known or not. -/
def override (d : Dataset) (user : UserId) (permission : PermissionId) (kind : String) : Dataset :=
  { d with overrides := d.overrides ++ [(user, permission, kind)] }

def addResource (d : Dataset) (user : UserId) (resource : Resource) : Dataset :=
  { d with resources := d.resources ++ [(user, resource)] }

/-! ## Queries -/

/-- The permissions of some identifiers that exist and match, in order. -/
def matching (d : Dataset) (ids : List PermissionId) (f : Filter) : List Permission :=
  (ids.filterMap d.permissions.find?).filter fun p => f.matchesPermission p.name

def tenantPermissions (d : Dataset) (f : Filter) : List Permission :=
  sortByName Permission.key (d.permissions.rows.filter fun p => f.matchesPermission p.name)

def tenantRoles (d : Dataset) : List Role := sortByName Role.key d.roles.rows

def userRoles (d : Dataset) (user : UserId) : List Role :=
  sortByName Role.key
    ((d.assignments.filter (·.1 = user)).filterMap fun a => d.roles.find? a.2)

def childRoles (d : Dataset) (parents : List RoleId) : List Role :=
  sortByName Role.key ((d.edges.filter (·.1 ∈ parents)).filterMap fun e => d.roles.find? e.2)

def rolePermissions (d : Dataset) (roles : List RoleId) (f : Filter) : List Permission :=
  let granted := ((d.grants.filter (·.1 ∈ roles)).map (·.2)).eraseDups
  sortByName Permission.key (d.matching granted f)

/-- A row of a permission that exists. -/
def overrideRow? (d : Dataset) (o : UserId × PermissionId × String) : Option OverrideRow :=
  (d.permissions.find? o.2.1).map fun p => ⟨p, o.2.2⟩

def overrideRows (d : Dataset) (user : UserId) (f : Filter) : List OverrideRow :=
  sortByName OverrideRow.key (((d.overrides.filter (·.1 = user)).filterMap d.overrideRow?).filter
    fun row => f.matchesPermission row.permission.name)

def userResources (d : Dataset) (user : UserId) (f : Filter) : List Resource :=
  sortByName Resource.key
    ((d.resources.filter fun r => decide (r.1 = user) && f.matchesType r.2.type).map (·.2))

/-! ## Answers -/

theorem id_mem_of_mem_childRoles {d : Dataset} {parents : List RoleId} {r : Role}
    (h : r ∈ d.childRoles parents) : r.id ∈ d.roles.keys := by
  obtain ⟨e, _, he⟩ := List.mem_filterMap.1 (mem_sortByName.1 h)
  exact List.mem_map.2 ⟨r, Table.mem_of_find? he, rfl⟩

def answer (d : Dataset) : (q : Query) → List (q.Row d.roles.keys)
  | .tenantPermissions f => d.tenantPermissions f
  | .tenantRoles => d.tenantRoles
  | .userRoles user => d.userRoles user
  | .childRoles parents =>
    (d.childRoles parents).attach.map fun r => ⟨r.1, id_mem_of_mem_childRoles r.2⟩
  | .rolePermissions roles f => d.rolePermissions roles f
  | .overrides user f => d.overrideRows user f
  | .resources user f => d.userResources user f

end Dataset

end Entitlement
