import Entitlement.Role.Cycle
import Entitlement.Store.Transaction

/-!
# Building the role map

* `buildRoleMap` : a node for each role of the tenant. The filter narrows permissions only; a cycle
  is reported, and the map returned all the same.
-/

namespace Entitlement
variable {σ : Type}

/-- The node of one role. -/
def queryNode (tx : Transaction σ) (f : Filter) (role : Role) : Run σ RoleNode := do
  let permissions ← Run.context "get role permissions" (tx.query (.rolePermissions [role.id] f))
  let children ← Run.context "get child roles" (tx.query (.childRoles [role.id]))
  return ⟨role, permissions, children.map Subtype.val⟩

/-- The entry for a map with a cycle. -/
def RoleMap.cycleWarning (g : RoleMap) (cycle : List RoleId) : LogEntry :=
  .warn "Role inheritance cycle detected" [("cycle", " -> ".intercalate (g.cycleNames cycle))]

def buildRoleMap (tx : Transaction σ) (f : Filter) : Run σ RoleMap := do
  let roles ← Run.context "get tenant roles" (tx.query .tenantRoles)
  let nodes ← roles.mapM (queryNode tx f)
  let g : RoleMap := Table.ofRows nodes
  match g.findCycle with
  | some cycle => Run.log (g.cycleWarning cycle)
  | none => pure ()
  Run.log (.debug "Built tenant role map" [("roles", Text.decimal g.size)])
  return g

end Entitlement
