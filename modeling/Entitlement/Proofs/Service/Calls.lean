import Entitlement.Proofs.Override
import Entitlement.Proofs.Role.Build
import Entitlement.Proofs.Service.Answers
import Entitlement.Proofs.View

/-!
# Views of a tenant's data

* `gives_tenantRoleMap`, `gives_userOverrides_iff`, ... : what the single calls of a store in memory
  are answered with, given the tenant's data;
* `Dataset.view` : what the data hold for a request, with the roles and the overrides of its user;
  `Dataset.Resolves` : what the view of a user holds, in terms of this data;
* `Service.resolves_of_resolve` : the view that a request is answered with is one;
* `Service.answers_of_resolve`, `resolve_of_answers` : a request is answered with the view that the
  single calls give, and with no other; `Service.exists_resolve_iff` : when it is;
* `Resolves.mem_effective_iff` : what a user may do, in terms of the data;
* `yardData` : a tenant's data for the examples.
-/

namespace Entitlement
open Run
variable {tenant : TenantId} {user : UserId} {f : Filter} {d : Dataset} {m : Memory}

/-! ## Single calls -/

theorem gives_transact_iff {α : Type} {name : String} {work : Transaction Memory → Run Memory α}
    {a : α} (hd : m.snapshot? tenant = .ok d) :
    (context name (memoryStore.transact tenant work)).Gives (· = m) a ↔
      ∀ w : World Memory, w.state = m →
        ∃ w', (work (d.transaction Memory)).Yields (w.stepped (.begin tenant)) a w' := by
  constructor
  · intro h w hw
    obtain ⟨d', w', hd', hwork, -⟩ := yields_transact.1 (yields_context.1 (h.yields hw))
    rw [hw] at hd'
    obtain rfl : d = d' := Except.ok.inj (hd.symm.trans hd')
    exact ⟨w', hwork⟩
  · rintro h w rfl
    obtain ⟨w', hwork⟩ := h w rfl
    have hyields := yields_transact.2 ⟨d, w', hd, hwork, rfl⟩
    exact congrArg Prod.fst (yields_context.2 hyields)

theorem gives_tenantRoleMap (hd : m.snapshot? tenant = .ok d) :
    (memoryStore.tenantRoleMap tenant f).Gives (· = m) (d.roleMap f) :=
  (gives_transact_iff hd).2 fun w _ => exists_yields_buildRoleMap d f (w.stepped (.begin tenant))

theorem gives_userResources (hd : m.snapshot? tenant = .ok d) :
    (memoryStore.userResources tenant user f).Gives (· = m) (d.userResources user f) :=
  (gives_transact_iff hd).2 fun _ _ => ⟨_, yields_query d (.resources user f) _⟩

theorem gives_tenantPermissions (hd : m.snapshot? tenant = .ok d) :
    (memoryStore.tenantPermissions tenant f).Gives (· = m) (d.tenantPermissions f) :=
  (gives_transact_iff hd).2 fun _ _ => ⟨_, yields_query d (.tenantPermissions f) _⟩

/-- Only rows of known kinds are answered with. -/
theorem gives_userOverrides_iff {o : Overrides} (hd : m.snapshot? tenant = .ok d) :
    (memoryStore.userOverrides tenant user f).Gives (· = m) o ↔
      Overrides.partition (d.overrideRows user f) = .ok o := by
  refine (gives_transact_iff hd).trans ⟨fun h => ?_, fun h w _ => ?_⟩
  · obtain ⟨w', hwork⟩ := h (.ofState m) rfl
    obtain ⟨rows, w₁, hquery, hrows⟩ := yields_bind.1 hwork
    obtain rfl := (hquery.unique (yields_query d _ _)).1
    exact (yields_ofResult.1 hrows).1
  · exact ⟨_, (yields_query d (.overrides user f) _).bind (yields_ofResult.2 ⟨h, rfl⟩)⟩

theorem exists_layering_of_gives {roles : List Role} (hd : m.snapshot? tenant = .ok d)
    (h : (memoryStore.userRoles tenant user).Gives (· = m) roles) :
    ∃ layers, d.Layering user layers ∧ roles = layers.flatten := by
  obtain ⟨w', hwork⟩ := (gives_transact_iff hd).1 h (.ofState m) rfl
  obtain ⟨layers, w₁, hroles, hall⟩ := exists_layering_resolveRoles d user
    ((World.ofState m).stepped (.begin tenant))
  exact ⟨layers, hall, (hwork.unique hroles).1⟩

theorem gives_userRoles {layers : List (List Role)} (hd : m.snapshot? tenant = .ok d)
    (hl : d.Layering user layers) :
    (memoryStore.userRoles tenant user).Gives (· = m) layers.flatten := by
  refine (gives_transact_iff hd).2 fun w _ => ?_
  obtain ⟨layers', w', hroles, hl'⟩ := exists_layering_resolveRoles d user
    (w.stepped (.begin tenant))
  rw [hl.flatten_unique hl']
  exact ⟨w', hroles⟩

theorem Dataset.rolePermissions_nil : d.rolePermissions [] f = [] := by
  refine List.eq_nil_iff_forall_not_mem.2 fun p hp => ?_
  obtain ⟨-, ⟨id, hid, -⟩, -⟩ := mem_rolePermissions.1 hp
  cases hid

/-- One query for the roles that the user's own call is answered with. -/
theorem gives_userPermissions {roles : List Role} (hd : m.snapshot? tenant = .ok d)
    (h : (memoryStore.userRoles tenant user).Gives (· = m) roles) :
    (memoryStore.userPermissions tenant user f).Gives (· = m)
      (d.rolePermissions (Role.ids roles) f) := by
  refine (gives_transact_iff hd).2 fun w hw => ?_
  obtain ⟨w₁, hroles⟩ := (gives_transact_iff hd).1 h w hw
  cases roles with
  | nil =>
    have hnone : d.rolePermissions (Role.ids []) f = [] := Dataset.rolePermissions_nil
    rw [hnone]
    exact ⟨w₁, hroles.bind (yields_pure.2 ⟨rfl, rfl⟩)⟩
  | cons role roles =>
    exact ⟨_, hroles.bind (yields_query d (.rolePermissions (Role.ids (role :: roles)) f) w₁)⟩

/-! ## Views -/

/-- What the data hold for a request, with the roles and the overrides of its user. -/
def Dataset.view (d : Dataset) (r : ViewRequest) (roles : List Role) (o : Overrides) : View where
  roles := roles
  overrides := o
  resources := d.userResources r.user r.filter
  roleMap := d.roleMap r.filter
  tenantPermissions := if r.withTenantPermissions then some (d.tenantPermissions r.filter) else none
  userPermissions :=
    if r.withUserPermissions then some (d.rolePermissions (Role.ids roles) r.filter) else none

structure Dataset.Resolves (d : Dataset) (r : ViewRequest) (v : View) : Prop where
  roles : ∃ layers, d.Layering r.user layers ∧ v.roles = layers.flatten
  overrides : Overrides.partition (d.overrideRows r.user r.filter) = .ok v.overrides
  roleMap : v.roleMap = d.roleMap r.filter

variable {timeout : Option Span} {r : ViewRequest} {c : Cancellation} {v : View} {w : World Memory}

theorem Store.Answers.exists_snapshot (h : memoryStore.Answers (· = m) r v) :
    ∃ d, m.snapshot? r.tenant = .ok d := by
  have hyields := h.roles.yields (w := .ofState m) rfl
  obtain ⟨d, -, hd, -⟩ := yields_transact.1 (yields_context.1 hyields)
  exact ⟨d, hd⟩

theorem Store.Answers.resolves (h : memoryStore.Answers (· = m) r v)
    (hd : m.snapshot? r.tenant = .ok d) : d.Resolves r v where
  roles := exists_layering_of_gives hd h.roles
  overrides := (gives_userOverrides_iff hd).1 h.overrides
  roleMap := h.roleMap.unique (gives_tenantRoleMap hd) ⟨m, rfl⟩

theorem Store.Answers.of_layering {layers : List (List Role)} {o : Overrides}
    (hd : m.snapshot? r.tenant = .ok d) (hl : d.Layering r.user layers)
    (ho : Overrides.partition (d.overrideRows r.user r.filter) = .ok o) :
    memoryStore.Answers (· = m) r (d.view r layers.flatten o) where
  roles := gives_userRoles hd hl
  overrides := (gives_userOverrides_iff hd).2 ho
  resources := gives_userResources hd
  roleMap := gives_tenantRoleMap hd
  tenantPermissions := (gives_tenantPermissions hd).givesIf r.withTenantPermissions
  userPermissions :=
    (gives_userPermissions hd (gives_userRoles hd hl)).givesIf r.withUserPermissions

theorem Dataset.Resolves.nodup_names (h : d.Resolves r v)
    (hroles : (d.roles.rows.map Role.name).Nodup) :
    (v.roleMap.rows.map fun n => n.role.name).Nodup := by
  rw [h.roleMap, rows_roleMap, List.map_map]
  exact nodup_map_sortByName.2 hroles

namespace Service

theorem answers_of_resolve (hv : ((⟨memoryStore, timeout⟩ : Service Memory).resolve r c w).1.result =
    .ok v) : memoryStore.Answers (· = w.state) r v :=
  Store.answers_of_fixed (P := (· = w.state)) (fixed_memoryStore w.state) rfl hv

/-- A store in memory takes no time: a request is answered with the view that the single calls
give. -/
theorem resolve_of_answers (hc : c ≠ .before) (h : memoryStore.Answers (· = w.state) r v) :
    ((⟨memoryStore, timeout⟩ : Service Memory).resolve r c w).1.result = .ok v := by
  have hfixed : (⟨memoryStore, timeout⟩ : Service Memory).store.Alike
      (fun a b => a = w.state ∧ b = w.state) (⟨memoryStore, timeout⟩ : Service Memory).store :=
    fixed_memoryStore w.state
  have hinstant : ∀ e ∈ ((⟨memoryStore, timeout⟩ : Service Memory).limits c).events, ∀ kind w₁,
      w₁.state = w.state →
      ((⟨memoryStore, timeout⟩ : Service Memory).ending r kind w₁).1.instant.nanos ≤
        e.instant.nanos := fun e _ _ _ _ => Nat.zero_le _
  obtain ⟨v', hv'⟩ := exists_resolve_of_gives (keeps_part hfixed ⟨w.state, rfl⟩) rfl hc
    (fun kind hkind => h.exists_gives timeout hkind) hinstant
  rw [hv', (answers_of_resolve hv').unique h ⟨w.state, rfl⟩]

theorem resolves_of_resolve (hd : w.state.snapshot? r.tenant = .ok d)
    (hv : ((⟨memoryStore, timeout⟩ : Service Memory).resolve r c w).1.result = .ok v) :
    d.Resolves r v :=
  (answers_of_resolve hv).resolves hd

/-- **A request is answered just if it is not cancelled before and the user's overrides are all of
known kinds.** -/
theorem exists_resolve_iff (hd : w.state.snapshot? r.tenant = .ok d) :
    (∃ v, ((⟨memoryStore, timeout⟩ : Service Memory).resolve r c w).1.result = .ok v) ↔
      c ≠ .before ∧
        ∀ row ∈ d.overrideRows r.user r.filter, ∃ k : OverrideKind, row.kind = k.text := by
  constructor
  · rintro ⟨v, hv⟩
    have h := resolves_of_resolve hd hv
    exact ⟨ne_before_of_resolve hv, (Overrides.partition_eq_ok_iff.1 h.overrides).1⟩
  · rintro ⟨hc, hknown⟩
    obtain ⟨layers, hl⟩ := d.exists_layering r.user
    have ho := Overrides.partition_eq_ok_iff.2 ⟨hknown, rfl⟩
    exact ⟨_, resolve_of_answers hc (.of_layering hd hl ho)⟩

end Service

namespace Dataset.Resolves

theorem mem_roles (h : d.Resolves r v) {q : Role} : q ∈ v.roles ↔ d.Reaches r.user q := by
  obtain ⟨layers, hlayers, hroles⟩ := h.roles
  rw [hroles]
  exact hlayers.mem_flatten

theorem mem_rows (h : d.Resolves r v) {q : Role} (hq : q ∈ v.roles) : q ∈ d.roles.rows := by
  obtain ⟨k, hk⟩ := exists_layer_iff.2 (h.mem_roles.1 hq)
  exact hk.mem_rows

/-- The roles of a user are closed under inheritance. -/
theorem mem_roles_of_inherits (h : d.Resolves r v) {p q : Role} (hp : p ∈ v.roles)
    (hpq : d.Inherits p q) : q ∈ v.roles := by
  obtain ⟨a, ha, hap⟩ := h.mem_roles.1 hp
  exact h.mem_roles.2 ⟨a, ha, hap.tail hpq⟩

theorem find?_node (h : d.Resolves r v) {q : Role} (hq : q ∈ v.roles) :
    v.roleMap.find? q.id = some (d.node r.filter q) := by
  rw [h.roleMap]
  exact find?_roleMap (h.mem_rows hq)

theorem mem_permissions_of_granted (h : d.Resolves r v) {p : Permission} (hp : p ∈ v.granted) :
    p ∈ d.permissions.rows := by
  obtain ⟨q, hq, n, hn, hp⟩ := View.mem_granted.1 hp
  obtain rfl := Option.some.inj ((h.find?_node hq).symm.trans hn)
  exact (mem_rolePermissions.1 hp).1

theorem mem_permissions (h : d.Resolves r v) {p : Permission}
    (hp : p ∈ v.granted ∨ p ∈ v.overrides.extra) : p ∈ d.permissions.rows :=
  hp.elim h.mem_permissions_of_granted fun hp => mem_permissions_of_partition h.overrides (.inl hp)

theorem mem_permissions_of_revoked (h : d.Resolves r v) {p : Permission}
    (hp : p ∈ v.overrides.revoked) : p ∈ d.permissions.rows :=
  mem_permissions_of_partition h.overrides (.inr hp)

/-- A permission whose identifier is revoked is the revoked one. -/
theorem id_mem_revoked_iff (h : d.Resolves r v) {p : Permission} (hp : p ∈ d.permissions.rows) :
    p.id ∈ v.overrides.revoked.map (·.id) ↔ p ∈ v.overrides.revoked := by
  refine ⟨fun hid => ?_, List.mem_map_of_mem⟩
  obtain ⟨q, hq, he⟩ := List.mem_map.1 hid
  exact Table.eq_of_key_eq (h.mem_permissions_of_revoked hq) hp he ▸ hq

/-- **The nodes of a user's roles hold what one query for all of them answers with**: every role has
a node. -/
theorem mem_granted_iff (h : d.Resolves r v) {p : Permission} :
    p ∈ v.granted ↔ p ∈ d.rolePermissions (Role.ids v.roles) r.filter := by
  rw [View.mem_granted, mem_rolePermissions]
  constructor
  · rintro ⟨q, hq, n, hn, hp⟩
    obtain rfl := Option.some.inj ((h.find?_node hq).symm.trans hn)
    obtain ⟨hmem, ⟨id, hid, hgrant⟩, hmatch⟩ := mem_rolePermissions.1 hp
    obtain rfl := List.mem_singleton.1 hid
    exact ⟨hmem, ⟨q.id, List.mem_map_of_mem hq, hgrant⟩, hmatch⟩
  · rintro ⟨hmem, ⟨id, hid, hgrant⟩, hmatch⟩
    obtain ⟨q, hq, rfl⟩ := List.mem_map.1 hid
    refine ⟨q, hq, d.node r.filter q, h.find?_node hq, ?_⟩
    exact mem_rolePermissions.2 ⟨hmem, ⟨q.id, List.mem_singleton_self _, hgrant⟩, hmatch⟩

/-- What a user may do was granted or is extra, and is not revoked. -/
theorem listing_effective (h : d.Resolves r v) : Listing Permission.key
    (fun p => p ∈ v.granted ++ v.overrides.extra ∧ p.id ∉ v.overrides.revoked.map (·.id))
    v.effective :=
  listing_sort_fresh (fun _ => rfl) fun _ hp => h.mem_permissions (List.mem_append.1 hp)

theorem mem_overrides_iff (h : d.Resolves r v) {p : Permission} :
    (p ∈ v.overrides.extra ↔ p ∈ d.permissions.rows ∧ (r.user, p.id, "extra") ∈ d.overrides ∧
      r.filter.matchesPermission p.name = true) ∧
    (p ∈ v.overrides.revoked ↔ p ∈ d.permissions.rows ∧ (r.user, p.id, "revoked") ∈ d.overrides ∧
      r.filter.matchesPermission p.name = true) := by
  rw [(Overrides.partition_eq_ok_iff.1 h.overrides).2]
  exact ⟨Overrides.mem_ofKind.trans mem_overrideRows, Overrides.mem_ofKind.trans mem_overrideRows⟩

/-- **What a user may do**, in terms of the tenant's data: what a role that the user comes to grants
or an override adds, of what matches, if no override takes it away. -/
theorem mem_effective_iff (h : d.Resolves r v) {p : Permission} :
    p ∈ v.effective ↔ p ∈ d.permissions.rows ∧ r.filter.matchesPermission p.name = true ∧
      ((∃ q, d.Reaches r.user q ∧ (q.id, p.id) ∈ d.grants) ∨
        (r.user, p.id, "extra") ∈ d.overrides) ∧
      (r.user, p.id, "revoked") ∉ d.overrides := by
  have hgranted : p ∈ v.granted ↔ p ∈ d.permissions.rows ∧
      (∃ q, d.Reaches r.user q ∧ (q.id, p.id) ∈ d.grants) ∧
      r.filter.matchesPermission p.name = true := by
    rw [h.mem_granted_iff, mem_rolePermissions]
    refine and_congr_right fun _ => and_congr_left' ?_
    simp only [Role.ids, List.mem_map, exists_exists_and_eq_and, h.mem_roles]
  rw [h.listing_effective.mem_iff, List.mem_append, hgranted, h.mem_overrides_iff.1]
  constructor
  · rintro ⟨hsource, hkept⟩
    have hp : p ∈ d.permissions.rows := hsource.elim (·.1) (·.1)
    have hmatch : r.filter.matchesPermission p.name = true := hsource.elim (·.2.2) (·.2.2)
    rw [h.id_mem_revoked_iff hp, h.mem_overrides_iff.2] at hkept
    exact ⟨hp, hmatch, hsource.imp (·.2.1) (·.2.1), fun ho => hkept ⟨hp, ho, hmatch⟩⟩
  · rintro ⟨hp, hmatch, hsource, hkept⟩
    rw [h.id_mem_revoked_iff hp, h.mem_overrides_iff.2]
    exact ⟨hsource.imp (⟨hp, ·, hmatch⟩) (⟨hp, ·, hmatch⟩), fun ho => hkept ho.2.1⟩

end Dataset.Resolves

/-! ## A tenant -/

def riderRequest : ViewRequest :=
  ⟨⟨"yard", by decide⟩, ⟨"rider", by decide⟩, .all, true, true⟩

/-- A rider who is granted one permission twice, one that is revoked, and an extra one. -/
def yardData : Dataset where
  roles := .ofRows [⟨"r1", "editor"⟩, ⟨"r2", "viewer"⟩]
  permissions := .ofRows [⟨"p1", "horses:read"⟩, ⟨"p2", "horses:update"⟩, ⟨"p3", "tack:read"⟩]
  grants := [("r2", "p1"), ("r1", "p1"), ("r1", "p2")]
  edges := [("r1", "r2")]
  assignments := [(riderRequest.user, "r1")]
  overrides := [(riderRequest.user, "p2", "revoked"), (riderRequest.user, "p3", "extra")]
  resources := [(riderRequest.user, ⟨"h1", "horses"⟩)]

def yardMemory : Memory := Memory.empty.put riderRequest.tenant yardData

theorem exists_view_rider : ∃ v, ((⟨memoryStore, none⟩ : Service Memory).resolve riderRequest .never
    (.ofState yardMemory)).1.result = .ok v ∧
      v.effective = [⟨"p1", "horses:read"⟩, ⟨"p3", "tack:read"⟩] := by
  have hd : (World.ofState yardMemory).state.snapshot? riderRequest.tenant = .ok yardData := rfl
  have hknown : ∀ row ∈ yardData.overrideRows riderRequest.user riderRequest.filter,
      ∃ k : OverrideKind, row.kind = k.text := Dataset.known_overrideRows (by decide)
  have hnever : Cancellation.never ≠ .before := fun h => by cases h
  obtain ⟨v, hv⟩ := (Service.exists_resolve_iff hd).2 ⟨hnever, hknown⟩
  have h := Service.resolves_of_resolve hd hv
  have hsorted : [(⟨"p1", "horses:read"⟩ : Permission), ⟨"p3", "tack:read"⟩].Pairwise
      fun p q => Before p.key q.key := List.pairwise_pair.2 (.inl (by decide))
  refine ⟨v, hv, h.listing_effective.unique ⟨hsorted, fun _ => Iff.rfl⟩ fun p => ?_⟩
  rw [← h.listing_effective.mem_iff, h.mem_effective_iff]
  constructor
  · rintro ⟨hp, -, -, hkept⟩
    revert p
    decide
  · intro hp
    have heditor : yardData.Reaches riderRequest.user ⟨"r1", "editor"⟩ :=
      ⟨_, ⟨by decide, by decide⟩, .refl⟩
    rcases List.mem_pair.1 hp with rfl | rfl
    · exact ⟨by decide, by decide, .inl ⟨_, heditor, by decide⟩, by decide⟩
    · exact ⟨by decide, by decide, .inr (by decide), by decide⟩

end Entitlement
