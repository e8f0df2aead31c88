import Entitlement.Permission
import Entitlement.Table

/-!
# The role map of a tenant

* `RoleNode` : a role with its own permissions and its immediate children;
* `RoleMap` : one node a role, by the role's identifier; `RoleMap.named` : the nodes of a name;
* `RoleMap.sorted` : the nodes by identifier.
-/

namespace Entitlement

structure RoleNode where
  role : Role
  permissions : List Permission
  inherits : List Role
  deriving DecidableEq, Repr

def RoleNode.id (n : RoleNode) : RoleId := n.role.id

/-- The identifiers of the immediate children. -/
def RoleNode.children (n : RoleNode) : List RoleId := Role.ids n.inherits

abbrev RoleMap := Table RoleNode.id

/-- Sorted by code points. -/
def sortIds (ids : List RoleId) : List RoleId := ids.mergeSort fun a b => !decide (b < a)

namespace RoleMap

def named (g : RoleMap) (name : String) : List RoleNode := g.rows.filter (·.role.name = name)

def byName? (g : RoleMap) (name : String) : Option RoleNode := (g.named name).head?

def sorted (g : RoleMap) : List RoleNode := g.rows.mergeSort fun a b => !decide (b.id < a.id)

end RoleMap

end Entitlement
