import Entitlement.Count
import Entitlement.Fresh
import Entitlement.Store.Transaction

/-!
# The roles of a user

* `expand` : the roles below a frontier, level by level;
* `resolveRoles` : the assigned roles and all they inherit from, each once, at its first level.

Each level that goes on finds a role of the transaction's known set that was not found before
(`unseen_append_lt`), so the levels end.
-/

namespace Entitlement

/-- How many known identifiers are not among some roles. -/
def unseen (known : List RoleId) (found : List Role) : Nat :=
  known.countP fun id => id ∉ Role.ids found

theorem unseen_append_lt {known : List RoleId} {found more : List Role} {r : Role}
    (hr : r ∈ more) (hk : r.id ∈ known) (hn : r.id ∉ Role.ids found) :
    unseen known (found ++ more) < unseen known found := by
  apply countP_lt_countP _ hk
  · have : r.id ∈ Role.ids (found ++ more) := List.mem_map.2 ⟨r, List.mem_append_right _ hr, rfl⟩
    simpa using this
  · simpa using hn
  · intro id _ h
    have hid : id ∉ Role.ids (found ++ more) := by simpa using h
    exact decide_eq_true fun hf => hid (by
      rw [Role.ids, List.map_append]; exact List.mem_append_left _ hf)

variable {σ : Type}

/-- Asks for the children of the frontier until a level brings no new role: all roles found, and
the number of levels that brought one. -/
def expand (tx : Transaction σ) (frontier : List RoleId) (found : List Role) (depth : Nat) :
    Run σ (List Role × Nat) := do
  let rows ← Run.context "get child roles" (tx.query (.childRoles frontier))
  let next := fresh Role.id (Role.ids found) (rows.map Subtype.val)
  if h : next = [] then return (found, depth)
  else expand tx (Role.ids next) (found ++ next) (depth + 1)
termination_by unseen tx.known found
decreasing_by
  obtain ⟨r, hr⟩ := List.exists_mem_of_ne_nil _ h
  obtain ⟨hrow, hnew⟩ := mem_of_mem_fresh hr
  obtain ⟨row, _, rfl⟩ := List.mem_map.1 hrow
  exact unseen_append_lt hr row.2 hnew

/-- Without an assigned role there is nothing to expand. -/
def resolveRoles (tx : Transaction σ) (user : UserId) : Run σ (List Role) := do
  let direct ← Run.context "get direct roles" (tx.query (.userRoles user))
  if direct.isEmpty then return []
  let first := fresh Role.id [] direct
  let (roles, depth) ← expand tx (Role.ids first) first 0
  Run.log (.debug "Resolved user roles"
    [("user", user.text), ("roles", Text.decimal roles.length), ("depth", Text.decimal depth)])
  return roles

end Entitlement
