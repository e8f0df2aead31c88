import Entitlement.Proofs.Override
import Entitlement.Proofs.Service.Calls
import Entitlement.Proofs.View
import Entitlement.Proofs.Wire.Graph
import Entitlement.Wire.Response

/-!
# Deciding from a response

A reader of a response knows names only. It walks the role graph from the user's roles, collects
what the roles on its way grant, adds the extra permissions and takes away the revoked ones.

* `Response.Reach` : the role names that the walk comes to; `Response.Grants`, `Response.Allows` :
  the permissions that it ends with;
* `reach_iff` : the walk comes to the names of the roles that the user has, so it adds none;
* `response_decides_as_view` : it allows what the view does.
-/

namespace Entitlement

namespace Response
variable (resp : Response)

inductive Reach : String → Prop where
  | given {name : String} (h : name ∈ resp.roles) : Reach name
  | inherited {name child : String} {e : GraphEntry} (h : Reach name)
      (he : resp.graph.find? name = some e) (hchild : child ∈ e.inherits) : Reach child

/-- Some role on the way has it. -/
def Grants (permission : String) : Prop :=
  ∃ name e, resp.Reach name ∧ resp.graph.find? name = some e ∧ permission ∈ e.permissions

def Allows (permission : String) : Prop :=
  (resp.Grants permission ∨ permission ∈ resp.extra) ∧ permission ∉ resp.revoked

end Response

namespace Dataset.Resolves
variable {d : Dataset} {r : ViewRequest} {v : View} {order : NodeOrder}

/-! ## Names -/

theorem find?_graph (h : d.Resolves r v) (hroles : (d.roles.rows.map Role.name).Nodup)
    {name : String} {e : GraphEntry} : (RoleGraph.ofMap v.roleMap order).find? name = some e ↔
      ∃ q ∈ d.roles.rows, q.name = name ∧ (d.node r.filter q).entry = e := by
  rw [RoleGraph.find?_ofMap_eq_some_iff (h.nodup_names hroles), h.roleMap]
  constructor
  · rintro ⟨n, hn, rfl, rfl⟩
    obtain ⟨q, hq, rfl⟩ := mem_rows_roleMap.1 hn
    exact ⟨q, hq, rfl, rfl⟩
  · rintro ⟨q, hq, rfl, rfl⟩
    exact ⟨d.node r.filter q, mem_rows_roleMap.2 ⟨q, hq, rfl⟩, rfl, rfl⟩

/-- The entry under the name of a user's role is the one of this role. -/
theorem find?_graph_of_mem (h : d.Resolves r v) (hroles : (d.roles.rows.map Role.name).Nodup)
    {q : Role} (hq : q ∈ v.roles) {e : GraphEntry} :
    (RoleGraph.ofMap v.roleMap order).find? q.name = some e ↔ (d.node r.filter q).entry = e := by
  rw [h.find?_graph hroles]
  constructor
  · rintro ⟨q', hq', hname, he⟩
    rwa [List.inj_on_of_nodup_map hroles (h.mem_rows hq) hq' hname.symm]
  · exact fun he => ⟨q, h.mem_rows hq, rfl, he⟩

/-- **The walk comes to the names of the user's roles.** -/
theorem reach_iff (h : d.Resolves r v) (hroles : (d.roles.rows.map Role.name).Nodup)
    {name : String} : (Response.ofView r.tenant r.user (some v) order).Reach name ↔
      ∃ q ∈ v.roles, q.name = name := by
  constructor
  · intro hreach
    induction hreach with
    | given hname => exact List.mem_map.1 hname
    | inherited _ he hchild ih =>
      obtain ⟨p, hp, rfl⟩ := ih
      obtain rfl := (h.find?_graph_of_mem hroles hp).1 he
      obtain ⟨q, hq, rfl⟩ := List.mem_map.1 hchild
      exact ⟨q, h.mem_roles_of_inherits hp (inherits_iff.1 hq), rfl⟩
  · rintro ⟨q, hq, rfl⟩
    exact .given (List.mem_map.2 ⟨q, hq, rfl⟩)

theorem grants_iff (h : d.Resolves r v) (hroles : (d.roles.rows.map Role.name).Nodup)
    {permission : String} : (Response.ofView r.tenant r.user (some v) order).Grants permission ↔
      ∃ p ∈ v.granted, p.name = permission := by
  constructor
  · rintro ⟨name, e, hreach, he, hmem⟩
    obtain ⟨q, hq, rfl⟩ := (h.reach_iff hroles).1 hreach
    obtain rfl := (h.find?_graph_of_mem hroles hq).1 he
    obtain ⟨p, hp, rfl⟩ := List.mem_map.1 hmem
    exact ⟨p, View.mem_granted.2 ⟨q, hq, _, h.find?_node hq, hp⟩, rfl⟩
  · rintro ⟨p, hp, rfl⟩
    obtain ⟨q, hq, n, hn, hp⟩ := View.mem_granted.1 hp
    obtain rfl := Option.some.inj ((h.find?_node hq).symm.trans hn)
    exact ⟨q.name, _, (h.reach_iff hroles).2 ⟨q, hq, rfl⟩,
      (h.find?_graph_of_mem hroles hq).2 rfl, List.mem_map.2 ⟨p, hp, rfl⟩⟩

/-! ## Permissions -/

/-- Revoking by identifier is revoking by name. -/
theorem id_revoked_iff (h : d.Resolves r v)
    (hpermissions : (d.permissions.rows.map Permission.name).Nodup) {p : Permission}
    (hp : p ∈ d.permissions.rows) : p.id ∈ v.overrides.revoked.map (·.id) ↔
      p.name ∈ v.overrides.revoked.map (·.name) := by
  rw [h.id_mem_revoked_iff hp]
  refine ⟨List.mem_map_of_mem, fun hname => ?_⟩
  obtain ⟨q, hq, he⟩ := List.mem_map.1 hname
  exact List.inj_on_of_nodup_map hpermissions (h.mem_permissions_of_revoked hq) hp he ▸ hq

theorem allows_iff (h : d.Resolves r v) (hroles : (d.roles.rows.map Role.name).Nodup)
    (hpermissions : (d.permissions.rows.map Permission.name).Nodup) {permission : String} :
    (Response.ofView r.tenant r.user (some v) order).Allows permission ↔
      ∃ p ∈ v.effective, p.name = permission := by
  unfold Response.Allows
  rw [h.grants_iff hroles]
  constructor
  · rintro ⟨hgranted, hrevoked⟩
    obtain ⟨p, hp, rfl⟩ : ∃ p, (p ∈ v.granted ∨ p ∈ v.overrides.extra) ∧ p.name = permission := by
      rcases hgranted with ⟨p, hp, he⟩ | hextra
      · exact ⟨p, .inl hp, he⟩
      · obtain ⟨p, hp, he⟩ := List.mem_map.1 hextra
        exact ⟨p, .inr hp, he⟩
    have hid : p.id ∉ v.overrides.revoked.map (·.id) :=
      mt (h.id_revoked_iff hpermissions (h.mem_permissions hp)).1 hrevoked
    exact ⟨p, (h.listing_effective.mem_iff p).2 ⟨List.mem_append.2 hp, hid⟩, rfl⟩
  · rintro ⟨p, hp, rfl⟩
    obtain ⟨hgranted, hrevoked⟩ := View.mem_effective hp
    refine ⟨hgranted.imp (fun hp => ⟨p, hp, rfl⟩) fun hp => List.mem_map.2 ⟨p, hp, rfl⟩, ?_⟩
    exact mt (h.id_revoked_iff hpermissions (h.mem_permissions hgranted)).2 hrevoked

end Dataset.Resolves

open Dataset.Resolves

/-- **A reader of a response decides as the service does**, whichever order the nodes of its graph
came in. Every role name that it comes to is a key of the graph, it comes to the names in `roles`
and no other, and it allows the permissions that the view calls effective. -/
theorem response_decides_as_view {d : Dataset} {timeout : Option Span} {r : ViewRequest}
    {c : Cancellation} {w : World Memory} {v : View} (order : NodeOrder)
    (hd : w.state.snapshot? r.tenant = .ok d)
    (hroles : (d.roles.rows.map Role.name).Nodup)
    (hpermissions : (d.permissions.rows.map Permission.name).Nodup)
    (hv : ((⟨memoryStore, timeout⟩ : Service Memory).resolve r c w).1.result = .ok v) :
    let resp := Response.ofView r.tenant r.user (some v) order
    (∀ name, resp.Reach name → ∃ e, resp.graph.find? name = some e) ∧
    (∀ name, resp.Reach name ↔ name ∈ resp.roles) ∧
    ∀ permission, resp.Allows permission ↔ permission ∈ v.effective.map Permission.name := by
  have h := Service.resolves_of_resolve hd hv
  refine ⟨fun name hname => ?_, fun name => ?_, fun permission => ?_⟩
  · obtain ⟨q, hq, rfl⟩ := (h.reach_iff hroles).1 hname
    exact ⟨_, (h.find?_graph_of_mem hroles hq).2 rfl⟩
  · exact (h.reach_iff hroles).trans List.mem_map.symm
  · exact (h.allows_iff hroles hpermissions).trans List.mem_map.symm

/-! ## A tenant with a cycle -/

def cyclicRequest : ViewRequest :=
  ⟨⟨"stable", by decide⟩, ⟨"groom", by decide⟩, .all, false, false⟩

/-- Two roles that inherit from each other, one of them assigned twice, and rows that name a role or
a permission that does not exist. -/
def cyclicData : Dataset where
  roles := .ofRows [⟨"r1", "editor"⟩, ⟨"r2", "viewer"⟩]
  permissions := .ofRows [⟨"p1", "horses:read"⟩, ⟨"p2", "horses:update"⟩, ⟨"p3", "tack:read"⟩]
  grants := [("r2", "p1"), ("r1", "p2"), ("r1", "p9")]
  edges := [("r1", "r2"), ("r2", "r1"), ("r2", "r9")]
  assignments := [(cyclicRequest.user, "r1"), (cyclicRequest.user, "r1")]
  overrides := [(cyclicRequest.user, "p2", "revoked"), (cyclicRequest.user, "p3", "extra")]
  resources := []

def cyclicWorld : World Memory := .ofState (Memory.empty.put cyclicRequest.tenant cyclicData)

theorem response_decides_cyclic : ∃ v,
    ((⟨memoryStore, none⟩ : Service Memory).resolve cyclicRequest .never cyclicWorld).1.result =
      .ok v ∧
    ∀ order permission,
      (Response.ofView cyclicRequest.tenant cyclicRequest.user (some v) order).Allows permission ↔
        permission ∈ ["horses:read", "tack:read"] := by
  have hd : cyclicWorld.state.snapshot? cyclicRequest.tenant = .ok cyclicData := rfl
  have hnever : Cancellation.never ≠ .before := fun h => by cases h
  obtain ⟨v, hv⟩ := (Service.exists_resolve_iff hd).2
    ⟨hnever, Dataset.known_overrideRows (by decide)⟩
  have h := Service.resolves_of_resolve hd hv
  have hviewer : cyclicData.Reaches cyclicRequest.user ⟨"r2", "viewer"⟩ :=
    ⟨⟨"r1", "editor"⟩, ⟨by decide, by decide⟩, .single ⟨by decide, by decide⟩⟩
  have heffective (p : Permission) :
      p ∈ v.effective ↔ p ∈ [⟨"p1", "horses:read"⟩, ⟨"p3", "tack:read"⟩] := by
    rw [h.mem_effective_iff]
    constructor
    · rintro ⟨hp, -, -, hkept⟩
      revert p
      decide
    · intro hp
      rcases List.mem_pair.1 hp with rfl | rfl
      · exact ⟨by decide, by decide, .inl ⟨_, hviewer, by decide⟩, by decide⟩
      · exact ⟨by decide, by decide, .inr (by decide), by decide⟩
  refine ⟨v, hv, fun order permission => ?_⟩
  have hdecides := response_decides_as_view order hd (by decide) (by decide) hv
  rw [hdecides.2.2, List.mem_map]
  simp only [heffective]
  exact List.mem_map.symm

end Entitlement
