import Entitlement.Proofs.Order
import Entitlement.Proofs.Role.Layers
import Entitlement.Role.Build

/-!
# The role map of a tenant in memory

* `Dataset.node` : a role with the permissions that it is granted and the roles that it inherits
  from; `Dataset.roleMap` : the nodes of all roles;
* `find?_roleMap` : each role has its node, and there is no other;
* `Dataset.mem_rolePermissions`, `Dataset.listing_rolePermissions` : the permissions of some roles,
  listed once each;
* `exists_yields_buildRoleMap` : what is built from the answers of the store.
-/

namespace Entitlement

/-- Each first occurrence is kept once. -/
theorem nodup_eraseDups {α : Type} [DecidableEq α] (l : List α) : l.eraseDups.Nodup := by
  match l with
  | [] => exact List.nodup_nil
  | a :: l =>
    rw [List.eraseDups_cons, List.nodup_cons, List.mem_eraseDups]
    have hnot : a ∉ l.filter fun b => !b == a := by simp
    exact ⟨hnot, nodup_eraseDups (l.filter fun b => !b == a)⟩
termination_by l.length
decreasing_by exact Nat.lt_succ_of_le (List.length_filter_le _ _)

namespace Dataset
variable (d : Dataset) (f : Filter)

def node (r : Role) : RoleNode := ⟨r, d.rolePermissions [r.id] f, d.childRoles [r.id]⟩

def roleMap : RoleMap := Table.ofRows (d.tenantRoles.map (d.node f))

variable {d f}

theorem mem_tenantRoles {r : Role} : r ∈ d.tenantRoles ↔ r ∈ d.roles.rows := mem_sortByName

theorem rows_roleMap : (d.roleMap f).rows = d.tenantRoles.map (d.node f) := by
  refine Table.rows_ofRows ?_
  rw [List.map_map]
  exact nodup_map_sortByName.2 d.roles.distinct

theorem mem_rows_roleMap {n : RoleNode} :
    n ∈ (d.roleMap f).rows ↔ ∃ r ∈ d.roles.rows, d.node f r = n := by
  rw [rows_roleMap, List.mem_map]
  exact exists_congr fun r => and_congr_left' mem_tenantRoles

theorem find?_roleMap {r : Role} (hr : r ∈ d.roles.rows) :
    (d.roleMap f).find? r.id = some (d.node f r) :=
  Table.find?_eq_some_iff.2 ⟨mem_rows_roleMap.2 ⟨r, hr, rfl⟩, rfl⟩

theorem mem_matching {ids : List PermissionId} {p : Permission} : p ∈ d.matching ids f ↔
    p ∈ d.permissions.rows ∧ p.id ∈ ids ∧ f.matchesPermission p.name = true := by
  rw [matching, List.mem_filter, List.mem_filterMap, ← and_assoc]
  refine and_congr_left' ?_
  constructor
  · rintro ⟨id, hid, hp⟩
    obtain ⟨hmem, rfl⟩ := Table.find?_eq_some_iff.1 hp
    exact ⟨hmem, hid⟩
  · rintro ⟨hmem, hid⟩
    exact ⟨p.id, hid, Table.find?_eq_some_iff.2 ⟨hmem, rfl⟩⟩

theorem mem_rolePermissions {roles : List RoleId} {p : Permission} :
    p ∈ d.rolePermissions roles f ↔ p ∈ d.permissions.rows ∧
      (∃ r ∈ roles, (r, p.id) ∈ d.grants) ∧ f.matchesPermission p.name = true := by
  rw [rolePermissions, mem_sortByName, mem_matching, List.mem_eraseDups, List.mem_map]
  refine and_congr_right fun _ => and_congr_left' ?_
  constructor
  · rintro ⟨⟨r, id⟩, hgrant, rfl⟩
    rw [List.mem_filter, decide_eq_true_iff] at hgrant
    exact ⟨r, hgrant.2, hgrant.1⟩
  · rintro ⟨r, hr, hgrant⟩
    exact ⟨(r, p.id), List.mem_filter.2 ⟨hgrant, decide_eq_true hr⟩, rfl⟩

theorem nodup_matching {ids : List PermissionId} (h : ids.Nodup) :
    ((d.matching ids f).map Permission.id).Nodup := by
  have hfound : (ids.filterMap d.permissions.find?).Nodup := by
    refine h.filterMap fun id id' p hp hp' => ?_
    rw [← Table.key_of_find? hp, ← Table.key_of_find? hp']
  refine (hfound.filter _).map_on fun p hp q hq he => ?_
  exact d.permissions.eq_of_key_eq (mem_matching.1 hp).1 (mem_matching.1 hq).1 he

/-- The answer about some roles lists what it holds. -/
theorem listing_rolePermissions (roles : List RoleId) : Listing Permission.key
    (· ∈ d.rolePermissions roles f) (d.rolePermissions roles f) := by
  have hd : ((d.rolePermissions roles f).map Permission.id).Nodup :=
    nodup_map_sortByName.2 (nodup_matching (nodup_eraseDups _))
  exact .of_sorted (pairwise_sortByName Permission.key _) (nodup_keys_of_ids (fun _ => rfl) hd)
    fun _ => Iff.rfl

theorem inherits_iff {p r : Role} : r ∈ (d.node f p).inherits ↔ d.Inherits p r := by
  change r ∈ d.childRoles [p.id] ↔ _
  rw [mem_childRoles]
  simp [Inherits]

end Dataset

open Run
variable {σ : Type}

theorem exists_yields_queryNode (d : Dataset) (f : Filter) (r : Role) (w : World σ) :
    ∃ w', (queryNode (d.transaction σ) f r).Yields w (d.node f r) w' := by
  obtain ⟨rows, w₂, hchildren, hrows⟩ := exists_yields_childRoles d [r.id] "get child roles"
    (w.stepped (.query (.rolePermissions [r.id] f)))
  refine ⟨w₂, Yields.bind (yields_context.2 (yields_query d _ w)) (hchildren.bind ?_)⟩
  rw [hrows]
  exact yields_pure.2 ⟨rfl, rfl⟩

theorem exists_yields_buildRoleMap (d : Dataset) (f : Filter) (w : World σ) :
    ∃ w', (buildRoleMap (d.transaction σ) f).Yields w (d.roleMap f) w' := by
  obtain ⟨w₂, hnodes⟩ := exists_yields_mapM (exists_yields_queryNode d f) d.tenantRoles
    (w.stepped (.query .tenantRoles))
  have hend : ∀ (g : RoleMap) (entry : LogEntry) (w : World σ),
      ∃ w', (do log entry; return g : Run σ RoleMap).Yields w g w' := fun g entry w =>
    ⟨_, Yields.bind (a := ()) (yields_log.2 rfl) (yields_pure.2 ⟨rfl, rfl⟩)⟩
  refine Yields.exists_bind (yields_context.2 (yields_query d .tenantRoles w))
    (Yields.exists_bind hnodes ?_)
  dsimp only
  split
  · exact Yields.exists_bind (a := ()) (yields_log.2 rfl) (hend _ _ _)
  · exact hend _ _ _

end Entitlement
