import Entitlement.View

/-!
# The parts of a view

* `PartKind` : the questions that a view is made of; `PartKind.asked` : those of a request, in the
  order in which they start; `PartKind.Answer` : what each is answered with;
* `Part` : the answer to one of them; `Parts` : the answers so far; `Parts.assemble` : the view.
-/

namespace Entitlement

inductive PartKind where
  | roleMap
  | overrides
  | roles
  | resources
  | tenantPermissions
  | userPermissions
  deriving DecidableEq, Repr

namespace PartKind

def asked (r : ViewRequest) : List PartKind :=
  [roleMap, overrides, roles, resources] ++
    (if r.withTenantPermissions then [tenantPermissions] else []) ++
    (if r.withUserPermissions then [userPermissions] else [])

def Answer : PartKind → Type
  | roleMap => RoleMap
  | overrides => Overrides
  | roles => List Role
  | resources => List Resource
  | tenantPermissions | userPermissions => List Permission

theorem nodup_asked (r : ViewRequest) : (asked r).Nodup := by
  unfold asked
  cases r.withTenantPermissions <;> cases r.withUserPermissions <;> decide

end PartKind

structure Part where
  kind : PartKind
  answer : kind.Answer

/-- At most one answer a kind. -/
def Parts := (kind : PartKind) → Option kind.Answer

namespace Parts

def none : Parts := fun _ => .none

def add (s : Parts) (p : Part) : Parts := fun kind =>
  if h : p.kind = kind then some (h ▸ p.answer) else s kind

/-- A part that has to be there. -/
def require (name : String) : Option α → Except Error α
  | some a => .ok a
  | .none => .error (.internal (name ++ " not resolved"))

def assemble (s : Parts) : Except Error View := do
  let overrides ← require "permission overrides" (s .overrides)
  let roles ← require "user roles" (s .roles)
  let resources ← require "user resources" (s .resources)
  let roleMap ← require "tenant role map" (s .roleMap)
  return ⟨roles, overrides, resources, roleMap, s .tenantPermissions, s .userPermissions⟩

theorem add_self (s : Parts) (p : Part) : s.add p p.kind = some p.answer := dif_pos rfl

theorem add_of_ne (s : Parts) {p : Part} {kind : PartKind} (h : p.kind ≠ kind) :
    s.add p kind = s kind := dif_neg h

end Parts

end Entitlement
