import Entitlement.Service.Resolve

/-!
# The six calls as one

* `PartKind.operation` : the name that a call's error is wrapped in;
* `PartKind.work` : what a call does inside its transaction;
* `Service.part_eq` : each call is its work in a transaction of its own, under its name.
-/

namespace Entitlement
variable {σ : Type}

namespace PartKind

def operation : PartKind → String
  | roleMap => "get tenant role map"
  | overrides => "get user permission overrides"
  | roles => "get user roles"
  | resources => "get user resources"
  | tenantPermissions => "get tenant permissions"
  | userPermissions => "get user permissions"

def work (r : ViewRequest) (tx : Transaction σ) : (kind : PartKind) → Run σ kind.Answer
  | .roleMap => buildRoleMap tx r.filter
  | .overrides => do
    let rows ← tx.query (.overrides r.user r.filter)
    Run.ofResult (Overrides.partition rows)
  | .roles => resolveRoles tx r.user
  | .resources => tx.query (.resources r.user r.filter)
  | .tenantPermissions => tx.query (.tenantPermissions r.filter)
  | .userPermissions => do
    let roles ← resolveRoles tx r.user
    if roles.isEmpty then return []
    tx.query (.rolePermissions (Role.ids roles) r.filter)

end PartKind

theorem Service.part_eq (s : Service σ) (r : ViewRequest) (kind : PartKind) :
    s.part r kind = Run.context kind.operation
      (s.store.transact r.tenant fun tx => kind.work r tx) := by
  cases kind <;> rfl

end Entitlement
