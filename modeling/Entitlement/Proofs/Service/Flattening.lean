import Entitlement.Proofs.Service.Calls

/-!
# Two ways to flatten

The permissions of a user's roles are in the nodes of the role graph, and they are the answer to one
query for all roles.

* `Dataset.Resolves.effective_eq` : what a user may do, from this answer;
* `Service.effective_eq_of_userPermissions` : what a user may do, from either of them.
-/

namespace Entitlement

namespace Dataset
variable {d : Dataset} {f : Filter} {r : ViewRequest} {v : View}

/-- Taken from the answer about all roles, with the overrides put in and left out. -/
theorem Resolves.effective_eq (h : d.Resolves r v) : v.effective =
    sortByName Permission.key (fresh Permission.id []
      ((d.rolePermissions (Role.ids v.roles) r.filter ++ v.overrides.extra).filter
        fun p => p.id ∉ v.overrides.revoked.map (·.id))) := by
  have hrows : ∀ p ∈ (d.rolePermissions (Role.ids v.roles) r.filter ++ v.overrides.extra).filter
      (fun p => p.id ∉ v.overrides.revoked.map (·.id)), p ∈ d.permissions.rows := by
    intro p hp
    have hmem := List.mem_append.1 (List.mem_filter.1 hp).1
    exact h.mem_permissions (hmem.imp_left h.mem_granted_iff.2)
  refine h.listing_effective.unique (listing_sort_fresh (fun _ => rfl) hrows) fun p => ?_
  rw [List.mem_append, List.mem_filter, List.mem_append, h.mem_granted_iff, decide_eq_true_iff]
  exact (and_iff_left List.not_mem_nil).symm

/-- No permission that matches is overridden for the user. -/
def Untouched (d : Dataset) (user : UserId) (f : Filter) : Prop :=
  ∀ p ∈ d.permissions.rows, f.matchesPermission p.name = true →
    ∀ kind, (user, p.id, kind) ∉ d.overrides

theorem Untouched.overrideRows {user : UserId} (h : d.Untouched user f) :
    d.overrideRows user f = [] := by
  refine List.eq_nil_iff_forall_not_mem.2 fun row hrow => ?_
  obtain ⟨hmem, hover, hmatch⟩ := mem_overrideRows.1 hrow
  exact h row.permission hmem hmatch row.kind hover

/-- Without an override nothing is put in or left out. -/
theorem Resolves.effective_eq_of_untouched (h : d.Resolves r v)
    (huntouched : d.Untouched r.user r.filter) :
    v.effective = d.rolePermissions (Role.ids v.roles) r.filter := by
  have hnone : v.overrides = ⟨[], []⟩ := by
    have hover := h.overrides
    rw [huntouched.overrideRows] at hover
    exact (Overrides.partition_eq_ok_iff.1 hover).2
  refine h.listing_effective.unique (listing_rolePermissions _) fun p => ?_
  rw [hnone, List.append_nil, h.mem_granted_iff]
  exact and_iff_left List.not_mem_nil

end Dataset

/-- **The role graph and the query for all roles come to the same.** What a user may do, flattened
from the role graph, is what the query for the permissions of the user's roles answers with,
together with the extra permissions, without the revoked ones, each once and in order; and if no
permission that matches is overridden for the user, it is this answer itself. -/
theorem Service.effective_eq_of_userPermissions {d : Dataset} {timeout : Option Span}
    {r : ViewRequest} {c : Cancellation} {w : World Memory} {v : View}
    (hd : w.state.snapshot? r.tenant = .ok d) (hasked : r.withUserPermissions = true)
    (hv : ((⟨memoryStore, timeout⟩ : Service Memory).resolve r c w).1.result = .ok v) :
    ∃ ps, v.userPermissions = some ps ∧
      v.effective = sortByName Permission.key (fresh Permission.id []
        ((ps ++ v.overrides.extra).filter fun p => p.id ∉ v.overrides.revoked.map (·.id))) ∧
      (d.Untouched r.user r.filter → v.effective = ps) := by
  have h := answers_of_resolve hv
  have hview := h.resolves hd
  have hprojected := h.userPermissions
  rw [hasked] at hprojected
  obtain ⟨ps, hps, hgives⟩ := hprojected
  have hquery : ps = d.rolePermissions (Role.ids v.roles) r.filter :=
    hgives.unique (gives_userPermissions hd h.roles) ⟨w.state, rfl⟩
  subst hquery
  exact ⟨_, hps, hview.effective_eq, hview.effective_eq_of_untouched⟩

theorem effective_rider : ∃ v ps,
    ((⟨memoryStore, none⟩ : Service Memory).resolve riderRequest .never
      (.ofState yardMemory)).1.result = .ok v ∧
    v.userPermissions = some ps ∧
    sortByName Permission.key (fresh Permission.id []
      ((ps ++ v.overrides.extra).filter fun p => p.id ∉ v.overrides.revoked.map (·.id))) =
        [⟨"p1", "horses:read"⟩, ⟨"p3", "tack:read"⟩] := by
  obtain ⟨v, hv, heffective⟩ := exists_view_rider
  have hd : (World.ofState yardMemory).state.snapshot? riderRequest.tenant = .ok yardData := rfl
  obtain ⟨ps, hps, hflat, -⟩ := Service.effective_eq_of_userPermissions hd rfl hv
  exact ⟨v, ps, hv, hps, hflat.symm.trans heffective⟩

end Entitlement
