import Entitlement.Proofs.Text.Utf8
import Entitlement.View
import Mathlib.Data.List.Basic

/-!
# Effective permissions

* `View.mem_granted` : what the nodes of a user's roles hold;
* `View.mem_effective`, `View.exists_mem_effective` : what a user may do was granted or is extra,
  and is not revoked; no identifier of such a permission is lost;
* `View.sources` : the permissions of the listed roles one role after the other, then the extra
  ones;
* `View.effective_first` : **a user may do what is not revoked, by the first source of each
  identifier**, in strictly ascending order.
-/

namespace Entitlement
open Text

namespace View
variable {v : View} {p : Permission}

theorem mem_granted : p ∈ v.granted ↔
    ∃ r ∈ v.roles, ∃ n, v.roleMap.find? r.id = some n ∧ p ∈ n.permissions := by
  rw [granted, List.mem_flatMap]
  refine exists_congr fun r => and_congr_right fun _ => ?_
  cases v.roleMap.find? r.id with
  | none => simp
  | some n => simp

theorem mem_effective (h : p ∈ v.effective) :
    (p ∈ v.granted ∨ p ∈ v.overrides.extra) ∧ p.id ∉ v.overrides.revoked.map (·.id) := by
  rw [effective, mem_sortByName] at h
  exact (mem_of_mem_fresh h).imp_left List.mem_append.1

theorem exists_mem_effective (hp : p ∈ v.granted ∨ p ∈ v.overrides.extra)
    (hrevoked : p.id ∉ v.overrides.revoked.map (·.id)) : ∃ q ∈ v.effective, q.id = p.id := by
  obtain ⟨q, hq, hqp⟩ := exists_mem_fresh (List.mem_append.2 hp) hrevoked
  exact ⟨q, mem_sortByName.2 hq, hqp⟩

/-! ## Sources -/

/-- A role without a node adds nothing, and a role that is listed twice comes twice. -/
def sources (v : View) : List Permission :=
  (v.roles.filterMap fun r => v.roleMap.find? r.id).flatMap (·.permissions) ++ v.overrides.extra

theorem sources_eq (v : View) : v.sources = v.granted ++ v.overrides.extra := by
  have hnodes : (v.roles.filterMap fun r => v.roleMap.find? r.id).flatMap (·.permissions) =
      v.granted := by
    rw [granted]
    induction v.roles with
    | nil => rfl
    | cons r roles ih =>
      rw [List.filterMap_cons, List.flatMap_cons, ← ih]
      cases v.roleMap.find? r.id with
      | none => rfl
      | some n => rfl
  rw [sources, hnodes]

theorem mem_effective_iff_find? : p ∈ v.effective ↔
    p.id ∉ v.overrides.revoked.map (·.id) ∧ v.sources.find? (fun q => q.id = p.id) = some p := by
  rw [effective, mem_sortByName, ← sources_eq]
  exact mem_fresh_iff_find?

theorem nodup_ids_effective (v : View) : (v.effective.map (·.id)).Nodup :=
  nodup_map_sortByName.2 (nodup_keys_fresh Permission.id _ _)

/-- No two permissions have one identifier, so none is level with another. -/
theorem ascending_effective (v : View) :
    v.effective.Pairwise fun p q => Before p.key q.key := by
  have hlisting : Listing Permission.key (· ∈ v.effective) v.effective :=
    .of_sorted (pairwise_sortByName Permission.key _)
      (nodup_keys_of_ids (fun _ => rfl) v.nodup_ids_effective) fun _ => Iff.rfl
  exact hlisting.ascending

theorem mem_ids_effective {id : PermissionId} : id ∈ v.effective.map (·.id) ↔
    id ∈ (v.granted ++ v.overrides.extra).map (·.id) ∧ id ∉ v.overrides.revoked.map (·.id) := by
  constructor
  · intro h
    obtain ⟨p, hp, rfl⟩ := List.mem_map.1 h
    obtain ⟨hsource, hkept⟩ := mem_effective hp
    exact ⟨List.mem_map_of_mem (List.mem_append.2 hsource), hkept⟩
  · intro h
    obtain ⟨hsource, hkept⟩ := h
    obtain ⟨p, hp, rfl⟩ := List.mem_map.1 hsource
    obtain ⟨q, hq, hqp⟩ := exists_mem_effective (List.mem_append.1 hp) hkept
    rw [← hqp]
    exact List.mem_map_of_mem hq

/-- The role map counts only at the listed roles. -/
theorem effective_congr {g : RoleMap} (h : ∀ r ∈ v.roles, g.find? r.id = v.roleMap.find? r.id) :
    { v with roleMap := g }.effective = v.effective := by
  have hgranted : { v with roleMap := g }.granted = v.granted :=
    List.flatMap_congr fun r hr => by rw [h r hr]
  rw [effective, hgranted]
  rfl

/-- **A user may do what is not revoked, by the first source of each identifier.** The identifiers
are those of the nodes of the listed roles and of the extra permissions, without the revoked ones,
each once. The permissions ascend strictly, by the bytes of their names and then of their
identifiers, and each is the first one of its identifier among the permissions of the listed roles
and then the extra ones. Roles that are not listed add nothing, whichever role inherits from
them. -/
theorem effective_first (v : View) :
    (v.effective.map (·.id)).Nodup ∧
    (v.effective.Pairwise fun p q => Utf8.encode p.name < Utf8.encode q.name ∨
      p.name = q.name ∧ Utf8.encode p.id < Utf8.encode q.id) ∧
    (∀ id, id ∈ v.effective.map (·.id) ↔
      ((∃ r ∈ v.roles, ∃ n, v.roleMap.find? r.id = some n ∧ id ∈ n.permissions.map (·.id)) ∨
        id ∈ v.overrides.extra.map (·.id)) ∧
      id ∉ v.overrides.revoked.map (·.id)) ∧
    (∀ p, p ∈ v.effective ↔ p.id ∉ v.overrides.revoked.map (·.id) ∧
      v.sources.find? (fun q => q.id = p.id) = some p) ∧
    ∀ g : RoleMap, (∀ r ∈ v.roles, g.find? r.id = v.roleMap.find? r.id) →
      { v with roleMap := g }.effective = v.effective := by
  have hids (id : PermissionId) : id ∈ v.granted.map (·.id) ↔
      ∃ r ∈ v.roles, ∃ n, v.roleMap.find? r.id = some n ∧ id ∈ n.permissions.map (·.id) := by
    constructor
    · intro h
      obtain ⟨p, hp, rfl⟩ := List.mem_map.1 h
      obtain ⟨r, hr, n, hn, hp⟩ := mem_granted.1 hp
      exact ⟨r, hr, n, hn, List.mem_map_of_mem hp⟩
    · intro h
      obtain ⟨r, hr, n, hn, h⟩ := h
      obtain ⟨p, hp, rfl⟩ := List.mem_map.1 h
      exact List.mem_map_of_mem (mem_granted.2 ⟨r, hr, n, hn, hp⟩)
  refine ⟨v.nodup_ids_effective, ?_, ?_, ?_, ?_⟩
  · exact v.ascending_effective.imp fun h => before_iff.1 h
  · intro id
    rw [mem_ids_effective, List.map_append, List.mem_append, hids]
  · intro p
    exact mem_effective_iff_find?
  · intro g h
    exact effective_congr h

end View

end Entitlement
