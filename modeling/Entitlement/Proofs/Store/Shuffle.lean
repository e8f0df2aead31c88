import Entitlement.Proofs.Override
import Entitlement.Proofs.Role.Build
import Entitlement.Store.Memory

/-!
# The order of rows, and the rows of others

* `Dataset.SameFor` : data with the same rows as far as they concern a user;
* `Dataset.Shuffled` : data with the same rows in another order;
* `Dataset.Reorders` : what is common to both, and enough for what is asked about the user
  (`roleMap_eq`, `userResources_eq`, `layering_iff`, ...);
* `Dataset.Reorders.partition_eq_ok_iff` : the rows of one permission's overrides keep their order,
  but those of one kind are equal;
* `Dataset.SameFor.overrideRows_eq` : with the user's rows in one order, the answers are the same
  too.
-/

namespace Entitlement

/-- Told apart by kind, rows come in an order that does not depend on the one they were in. -/
theorem Overrides.ofKind_sortByName {rows rows' : List OverrideRow} (h : rows.Perm rows')
    (kind : OverrideKind) : ofKind kind (sortByName OverrideRow.key rows) =
      ofKind kind (sortByName OverrideRow.key rows') := by
  have hsorted : ∀ rows : List OverrideRow, (ofKind kind (sortByName OverrideRow.key rows)).Pairwise
      fun a b => ¬ Before b.key a.key := fun rows =>
    List.pairwise_map.2 ((pairwise_sortByName OverrideRow.key rows).filter _)
  refine eq_of_sorted Permission.key_injective ?_ (hsorted rows) (hsorted rows')
  refine (List.Perm.filter _ ?_).map _
  exact ((perm_sortByName _ rows).trans h).trans (perm_sortByName _ rows').symm

namespace Dataset

/-- The same roles, permissions, grants and edges, and the same rows of a user. -/
structure SameFor (user : UserId) (d d' : Dataset) : Prop where
  roles : d.roles.rows.Perm d'.roles.rows
  permissions : d.permissions.rows.Perm d'.permissions.rows
  grants : d.grants = d'.grants
  edges : d.edges = d'.edges
  assignments : d.assignments.filter (·.1 = user) = d'.assignments.filter (·.1 = user)
  overrides : d.overrides.filter (·.1 = user) = d'.overrides.filter (·.1 = user)
  resources : d.resources.filter (·.1 = user) = d'.resources.filter (·.1 = user)

structure Shuffled (d d' : Dataset) : Prop where
  roles : d.roles.rows.Perm d'.roles.rows
  permissions : d.permissions.rows.Perm d'.permissions.rows
  grants : d.grants.Perm d'.grants
  edges : d.edges.Perm d'.edges
  assignments : d.assignments.Perm d'.assignments
  overrides : d.overrides.Perm d'.overrides
  resources : d.resources.Perm d'.resources

/-- As much of the same rows as concerns a user, in whatever order. -/
structure Reorders (user : UserId) (d d' : Dataset) : Prop where
  roles : d.roles.rows.Perm d'.roles.rows
  permissions : d.permissions.rows.Perm d'.permissions.rows
  grants : d.grants.Perm d'.grants
  edges : d.edges.Perm d'.edges
  assignments : (d.assignments.filter (·.1 = user)).Perm (d'.assignments.filter (·.1 = user))
  overrides : (d.overrides.filter (·.1 = user)).Perm (d'.overrides.filter (·.1 = user))
  resources : (d.resources.filter (·.1 = user)).Perm (d'.resources.filter (·.1 = user))

variable {d d' : Dataset} {user : UserId}

theorem SameFor.reorders (h : d.SameFor user d') : d.Reorders user d' where
  roles := h.roles
  permissions := h.permissions
  grants := .of_eq h.grants
  edges := .of_eq h.edges
  assignments := .of_eq h.assignments
  overrides := .of_eq h.overrides
  resources := .of_eq h.resources

theorem Shuffled.reorders (h : d.Shuffled d') (user : UserId) : d.Reorders user d' where
  roles := h.roles
  permissions := h.permissions
  grants := h.grants
  edges := h.edges
  assignments := h.assignments.filter _
  overrides := h.overrides.filter _
  resources := h.resources.filter _

namespace Reorders

/-! ## Answers -/

theorem tenantRoles_eq (h : d.Reorders user d') : d.tenantRoles = d'.tenantRoles :=
  sortByName_congr Role.key_injective h.roles

theorem tenantPermissions_eq (h : d.Reorders user d') (f : Filter) :
    d.tenantPermissions f = d'.tenantPermissions f :=
  sortByName_congr Permission.key_injective (h.permissions.filter _)

theorem childRoles_eq (h : d.Reorders user d') (parents : List RoleId) :
    d.childRoles parents = d'.childRoles parents := by
  have hfind : d.roles.find? = d'.roles.find? := funext (Table.find?_congr h.roles)
  unfold childRoles
  rw [hfind]
  exact sortByName_congr Role.key_injective ((h.edges.filter _).filterMap _)

theorem rolePermissions_eq (h : d.Reorders user d') (roles : List RoleId) (f : Filter) :
    d.rolePermissions roles f = d'.rolePermissions roles f := by
  refine (listing_rolePermissions roles).unique (listing_rolePermissions roles) fun p => ?_
  rw [mem_rolePermissions, mem_rolePermissions, h.permissions.mem_iff]
  simp only [h.grants.mem_iff]

theorem userResources_eq (h : d.Reorders user d') (f : Filter) :
    d.userResources user f = d'.userResources user f := by
  unfold userResources
  simp only [Bool.and_comm (decide _), ← List.filter_filter]
  exact sortByName_congr Resource.key_injective ((h.resources.filter _).map _)

theorem roleMap_eq (h : d.Reorders user d') (f : Filter) : d.roleMap f = d'.roleMap f := by
  have hnode : d.node f = d'.node f := by
    funext r
    rw [node, node, h.rolePermissions_eq, h.childRoles_eq]
  rw [roleMap, roleMap, h.tenantRoles_eq, hnode]

/-! ## Roles -/

theorem assigned_iff (h : d.Reorders user d') {r : Role} :
    d.Assigned user r ↔ d'.Assigned user r := by
  have hrow := h.assignments.mem_iff (a := (user, r.id))
  simp only [List.mem_filter, decide_true, and_true] at hrow
  rw [Assigned, Assigned, h.roles.mem_iff, hrow]

theorem inherits_iff (h : d.Reorders user d') {p r : Role} :
    d.Inherits p r ↔ d'.Inherits p r := by
  rw [Inherits, Inherits, h.roles.mem_iff, h.edges.mem_iff]

theorem descends_iff (h : d.Reorders user d') {k : Nat} {r : Role} :
    d.Descends user k r ↔ d'.Descends user k r := by
  induction k generalizing r with
  | zero => exact h.assigned_iff
  | succ k ih => exact exists_congr fun p => and_congr ih h.inherits_iff

theorem layer_iff (h : d.Reorders user d') {k : Nat} {r : Role} :
    d.Layer user k r ↔ d'.Layer user k r := by
  rw [layer_iff_isLeast, layer_iff_isLeast]
  simp only [h.descends_iff]

theorem layering_iff (h : d.Reorders user d') {layers : List (List Role)} :
    d.Layering user layers ↔ d'.Layering user layers := by
  have hlayer : ∀ k, d.Layer user k = d'.Layer user k :=
    fun k => funext fun _ => propext h.layer_iff
  unfold Layering
  simp only [hlayer]

/-! ## Overrides -/

theorem overrideRow?_eq (h : d.Reorders user d') : d.overrideRow? = d'.overrideRow? := by
  funext o
  rw [overrideRow?, overrideRow?, Table.find?_congr h.permissions]

theorem ofKind_eq (h : d.Reorders user d') (f : Filter) (kind : OverrideKind) :
    Overrides.ofKind kind (d.overrideRows user f) =
      Overrides.ofKind kind (d'.overrideRows user f) := by
  unfold overrideRows
  rw [h.overrideRow?_eq]
  exact Overrides.ofKind_sortByName ((h.overrides.filterMap _).filter _) kind

theorem mem_overrideRows_iff (h : d.Reorders user d') {f : Filter} {row : OverrideRow} :
    row ∈ d.overrideRows user f ↔ row ∈ d'.overrideRows user f := by
  have hrow := h.overrides.mem_iff (a := (user, row.permission.id, row.kind))
  simp only [List.mem_filter, decide_true, and_true] at hrow
  rw [mem_overrideRows, mem_overrideRows, h.permissions.mem_iff, hrow]

/-- The rows themselves may come in different orders. -/
theorem partition_eq_ok_iff (h : d.Reorders user d') {f : Filter} {o : Overrides} :
    Overrides.partition (d.overrideRows user f) = .ok o ↔
      Overrides.partition (d'.overrideRows user f) = .ok o := by
  rw [Overrides.partition_eq_ok_iff, Overrides.partition_eq_ok_iff, h.ofKind_eq, h.ofKind_eq]
  simp only [h.mem_overrideRows_iff]

end Reorders

theorem SameFor.overrideRows_eq (h : d.SameFor user d') (f : Filter) :
    d.overrideRows user f = d'.overrideRows user f := by
  unfold overrideRows
  rw [h.reorders.overrideRow?_eq, h.overrides]

end Dataset

/-! ## Stores -/

theorem Memory.snapshot?_put (m : Memory) (tenant : TenantId) (d : Dataset) :
    (m.put tenant d).snapshot? tenant = .ok d := by
  have hfound : (m.put tenant d).tenants.find? tenant = some ⟨tenant, d⟩ :=
    (Table.find?_put _ _ _).trans (if_pos rfl)
  rw [snapshot?, hfound]

/-- The data of a tenant are the same as far as they concern a user, or it has none. -/
def Memory.SameFor (tenant : TenantId) (user : UserId) (m m' : Memory) : Prop :=
  Option.Rel (fun x y => x.data.SameFor user y.data) (m.tenants.find? tenant)
    (m'.tenants.find? tenant)

theorem Memory.SameFor.snapshot {tenant : TenantId} {user : UserId} {m m' : Memory}
    (h : Memory.SameFor tenant user m m') :
    (∃ d d', m.snapshot? tenant = .ok d ∧ m'.snapshot? tenant = .ok d' ∧ d.SameFor user d') ∨
      ∃ e, m.snapshot? tenant = .error e ∧ m'.snapshot? tenant = .error e := by
  unfold Memory.SameFor at h
  unfold Memory.snapshot?
  cases hfound : m.tenants.find? tenant with
  | none =>
    rw [hfound] at h
    cases hfound' : m'.tenants.find? tenant with
    | none => exact .inr ⟨_, rfl, rfl⟩
    | some found' =>
      rw [hfound'] at h
      cases h
  | some found =>
    rw [hfound] at h
    cases hfound' : m'.tenants.find? tenant with
    | none =>
      rw [hfound'] at h
      cases h
    | some found' =>
      rw [hfound'] at h
      cases h with
      | some hsame => exact .inl ⟨found.data, found'.data, rfl, rfl, hsame⟩

end Entitlement
