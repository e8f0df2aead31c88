import Entitlement.Proofs.Service.Calls

/-!
# Views under a filter

* `View.restrict` : a view narrowed to what matches a filter, part by part and in order;
* `Dataset.rolePermissions_eq_narrow`, `Dataset.roleMap_restrict`, ... : what is answered under a
  filter is what is answered without one, narrowed;
* `View.effective_restrict` : narrowing a view narrows what its user may do, and no more;
* `Service.resolve_restrict` : a request under a filter is answered with the narrowed view.
-/

namespace Entitlement

/-! ## Narrowing -/

/-- The permissions that match, in order. -/
def Filter.narrow (f : Filter) (ps : List Permission) : List Permission :=
  ps.filter fun p => f.matchesPermission p.name

def RoleNode.restrict (n : RoleNode) (f : Filter) : RoleNode :=
  { n with permissions := f.narrow n.permissions }

/-- The same nodes, with fewer permissions. -/
def RoleMap.restrict (g : RoleMap) (f : Filter) : RoleMap where
  rows := g.rows.map (·.restrict f)
  distinct := by
    rw [List.map_map]
    exact g.distinct

def Overrides.restrict (o : Overrides) (f : Filter) : Overrides :=
  ⟨f.narrow o.extra, f.narrow o.revoked⟩

def View.restrict (v : View) (f : Filter) : View where
  roles := v.roles
  overrides := v.overrides.restrict f
  resources := v.resources.filter fun r => f.matchesType r.type
  roleMap := v.roleMap.restrict f
  tenantPermissions := v.tenantPermissions.map f.narrow
  userPermissions := v.userPermissions.map f.narrow

theorem RoleMap.rows_restrict (g : RoleMap) (f : Filter) :
    (g.restrict f).rows = g.rows.map (·.restrict f) := rfl

theorem RoleMap.find?_restrict (g : RoleMap) (f : Filter) (id : RoleId) :
    (g.restrict f).find? id = (g.find? id).map (·.restrict f) := by
  unfold Table.find?
  rw [rows_restrict, List.find?_map]
  rfl

/-! ## Answers under a filter -/

namespace Dataset
variable (d : Dataset) (f : Filter)

theorem tenantPermissions_eq_narrow :
    d.tenantPermissions f = f.narrow (d.tenantPermissions .all) := by
  unfold tenantPermissions Filter.narrow
  rw [filter_sortByName, List.filter_filter]
  simp only [Filter.matchesPermission_all, Bool.and_true]

theorem matching_eq_narrow (ids : List PermissionId) :
    d.matching ids f = f.narrow (d.matching ids .all) := by
  unfold matching Filter.narrow
  rw [List.filter_filter]
  simp only [Filter.matchesPermission_all, Bool.and_true]

theorem rolePermissions_eq_narrow (roles : List RoleId) :
    d.rolePermissions roles f = f.narrow (d.rolePermissions roles .all) := by
  unfold rolePermissions
  dsimp only
  rw [matching_eq_narrow, Filter.narrow, Filter.narrow, filter_sortByName]

theorem userResources_eq_filter (user : UserId) :
    d.userResources user f = (d.userResources user .all).filter fun r => f.matchesType r.type := by
  unfold userResources
  rw [filter_sortByName, List.filter_map, List.filter_filter]
  have htest : ∀ r : UserId × Resource, (decide (r.1 = user) && f.matchesType r.2.type) =
      (((fun r => f.matchesType r.type) ∘ Prod.snd) r &&
        (decide (r.1 = user) && Filter.matchesType .all r.2.type)) := by
    intro r
    rw [Filter.matchesType_all, Bool.and_true, Bool.and_comm]
    rfl
  rw [funext htest]

theorem overrideRows_eq_filter (user : UserId) : d.overrideRows user f =
    (d.overrideRows user .all).filter fun row => f.matchesPermission row.permission.name := by
  unfold overrideRows
  rw [filter_sortByName, List.filter_filter]
  simp only [Filter.matchesPermission_all, Bool.and_true]

theorem node_restrict (q : Role) : (d.node .all q).restrict f = d.node f q := by
  unfold RoleNode.restrict node
  rw [← rolePermissions_eq_narrow]

theorem roleMap_restrict : (d.roleMap .all).restrict f = d.roleMap f := by
  refine Table.eq_of_rows_eq ?_
  rw [RoleMap.rows_restrict, rows_roleMap, rows_roleMap, List.map_map]
  exact List.map_congr_left fun q _ => d.node_restrict f q

end Dataset

namespace Overrides

theorem ofKind_filter (kind : OverrideKind) (rows : List OverrideRow) (f : Filter) :
    ofKind kind (rows.filter fun row => f.matchesPermission row.permission.name) =
      f.narrow (ofKind kind rows) := by
  unfold ofKind Filter.narrow
  rw [List.filter_map, List.filter_filter, List.filter_filter]
  simp only [Function.comp_def, Bool.and_comm]

/-- Of rows of known kinds, those that match have known kinds. -/
theorem partition_filter {rows : List OverrideRow} {o : Overrides} (f : Filter)
    (h : partition rows = .ok o) :
    partition (rows.filter fun row => f.matchesPermission row.permission.name) =
      .ok (o.restrict f) := by
  obtain ⟨hknown, rfl⟩ := partition_eq_ok_iff.1 h
  refine partition_eq_ok_iff.2 ⟨fun row hrow => hknown row (List.mem_filter.1 hrow).1, ?_⟩
  rw [ofKind_filter, ofKind_filter]
  rfl

end Overrides

/-! ## Effective permissions -/

namespace View
variable {d : Dataset} {r : ViewRequest} {v : View}

theorem granted_restrict (v : View) (f : Filter) : (v.restrict f).granted = f.narrow v.granted := by
  unfold granted Filter.narrow
  rw [List.filter_flatMap]
  refine congrArg (v.roles.flatMap ·) (funext fun q => ?_)
  change (((v.roleMap.restrict f).find? q.id).map (·.permissions)).getD [] = _
  rw [RoleMap.find?_restrict]
  cases v.roleMap.find? q.id with
  | none => rfl
  | some n => rfl

/-- **Narrowing a view narrows what its user may do**: a revocation that does not match would have
taken away nothing that does. -/
theorem effective_restrict (h : d.Resolves r v) (f : Filter) :
    (v.restrict f).effective = f.narrow v.effective := by
  have hitems : ∀ p ∈ v.granted ++ v.overrides.extra, p ∈ d.permissions.rows :=
    fun p hp => h.mem_permissions (List.mem_append.1 hp)
  have hsame : ∀ p ∈ v.granted ++ v.overrides.extra, ∀ q ∈ v.granted ++ v.overrides.extra,
      p.id = q.id → f.matchesPermission p.name = f.matchesPermission q.name := by
    intro p hp q hq he
    rw [d.permissions.eq_of_key_eq (hitems p hp) (hitems q hq) he]
  have hrevoked : ∀ p ∈ v.granted ++ v.overrides.extra, f.matchesPermission p.name = true →
      (p.id ∈ (f.narrow v.overrides.revoked).map (·.id) ↔
        p.id ∈ v.overrides.revoked.map (·.id)) := by
    intro p hp hmatch
    constructor
    · intro hid
      obtain ⟨q, hq, he⟩ := List.mem_map.1 hid
      exact List.mem_map.2 ⟨q, (List.mem_filter.1 hq).1, he⟩
    · intro hid
      have hrevoked := (h.id_mem_revoked_iff (hitems p hp)).1 hid
      exact List.mem_map_of_mem (List.mem_filter.2 ⟨hrevoked, hmatch⟩)
  have hgranted : (v.restrict f).granted ++ (v.restrict f).overrides.extra =
      f.narrow (v.granted ++ v.overrides.extra) := by
    rw [granted_restrict]
    exact (List.filter_append ..).symm
  unfold effective
  rw [hgranted]
  unfold Filter.narrow at hrevoked ⊢
  rw [filter_sortByName, filter_fresh hsame hrevoked]
  rfl

end View

/-! ## Requests -/

open Run

theorem Store.Answers.restrict {d : Dataset} {m : Memory} {r : ViewRequest} {v : View}
    (hd : m.snapshot? r.tenant = .ok d) (f : Filter)
    (h : memoryStore.Answers (· = m) { r with filter := .all } v) :
    memoryStore.Answers (· = m) { r with filter := f } (v.restrict f) where
  roles := h.roles
  overrides := by
    have hall := (gives_userOverrides_iff hd).1 h.overrides
    refine (gives_userOverrides_iff hd).2 ?_
    rw [Dataset.overrideRows_eq_filter]
    exact Overrides.partition_filter f hall
  resources := by
    have hall := h.resources.unique (gives_userResources hd) ⟨m, rfl⟩
    have hnarrow := d.userResources_eq_filter f r.user
    unfold View.restrict
    rw [hall, ← hnarrow]
    exact gives_userResources hd
  roleMap := by
    have hall := h.roleMap.unique (gives_tenantRoleMap hd) ⟨m, rfl⟩
    unfold View.restrict
    rw [hall, Dataset.roleMap_restrict]
    exact gives_tenantRoleMap hd
  tenantPermissions := by
    refine h.tenantPermissions.map fun ps hps => ?_
    have hall := hps.unique (gives_tenantPermissions hd) ⟨m, rfl⟩
    rw [hall, ← Dataset.tenantPermissions_eq_narrow]
    exact gives_tenantPermissions hd
  userPermissions := by
    refine h.userPermissions.map fun ps hps => ?_
    have hall := hps.unique (gives_userPermissions hd h.roles) ⟨m, rfl⟩
    rw [hall, ← Dataset.rolePermissions_eq_narrow]
    exact gives_userPermissions hd h.roles

/-- **A filter narrows a view, and does nothing else.** If a request about everything succeeds, then
the same request under a filter does. Its view has the same roles in the same order and the same
role graph, and of the permissions and resources, in their order, the ones that match; what the user
may effectively do is narrowed in the same way. -/
theorem Service.resolve_restrict {timeout : Option Span} {r : ViewRequest} {c : Cancellation}
    {w : World Memory} {v : View}
    (hv : ((⟨memoryStore, timeout⟩ : Service Memory).resolve
      { r with filter := .all } c w).1.result = .ok v) (f : Filter) :
    ((⟨memoryStore, timeout⟩ : Service Memory).resolve { r with filter := f } c w).1.result =
        .ok (v.restrict f) ∧
      (v.restrict f).effective = f.narrow v.effective := by
  have hall := answers_of_resolve hv
  obtain ⟨d, hd⟩ := hall.exists_snapshot
  have hrestricted : memoryStore.Answers (· = w.state) { r with filter := f } (v.restrict f) :=
    hall.restrict hd f
  refine ⟨resolve_of_answers (ne_before_of_resolve hv) hrestricted, ?_⟩
  exact View.effective_restrict (hall.resolves hd) f

theorem resolve_horses : ∃ v,
    ((⟨memoryStore, none⟩ : Service Memory).resolve { riderRequest with filter := ⟨["Horses"]⟩ } .never
      (.ofState yardMemory)).1.result = .ok v ∧
    v.effective = [⟨"p1", "horses:read"⟩] := by
  obtain ⟨v, hv, heffective⟩ := exists_view_rider
  obtain ⟨hrestricted, hnarrow⟩ := Service.resolve_restrict (r := riderRequest) hv ⟨["Horses"]⟩
  rw [heffective] at hnarrow
  have hone : Filter.narrow ⟨["Horses"]⟩ [⟨"p1", "horses:read"⟩, ⟨"p3", "tack:read"⟩] =
      [⟨"p1", "horses:read"⟩] := by decide +kernel
  exact ⟨_, hrestricted, hnarrow.trans hone⟩

end Entitlement
