import Entitlement.Proofs.Service.Calls
import Entitlement.Proofs.Store.Shuffle
import Entitlement.Proofs.Store.Transcript
import Entitlement.Proofs.Wire.Graph
import Entitlement.Wire.Response

/-!
# What requests on data in memory come to

* `Service.resolve_of_layering` : a request on data in memory comes to the view of the data, or to
  the error of an override of an unknown kind; `Service.resolve_of_missing` : without data, to that
  of the role map;
* `Service.resolve_eq_of_sameFor` : so other tenants and other users do not matter, to the view or
  to the responses that may be sent for it;
* `Service.resolve_of_shuffled` : nor does the order of rows, but for the override in an error.
-/

namespace Entitlement
open Run

/-- The service on data in memory. -/
abbrev Service.inMemory (timeout : Option Span) : Service Memory := ⟨memoryStore, timeout⟩

variable {d d' : Dataset} {m : Memory} {timeout : Option Span} {r : ViewRequest}
  {c : Cancellation} {w w' : World Memory} {layers : List (List Role)}

/-! ## Parts -/

namespace Service

/-- Without data no part begins. -/
theorem run_part_of_missing {e : Error} (timeout : Option Span)
    (he : w.state.snapshot? r.tenant = .error e) (kind : PartKind) :
    (((inMemory timeout).part r kind).run w).1 =
      .error (.failed ((e.context "get tenant connection").context kind.operation)) := by
  rw [part_eq, run_context]
  dsimp only
  rw [Store.run_transact_refused (begin_of_snapshot_error he)]
  rfl

/-- An unknown kind is the error of the part, and the rollback after it succeeds. -/
theorem run_overrides_of_error {e : Error} (timeout : Option Span)
    (hd : w.state.snapshot? r.tenant = .ok d)
    (he : Overrides.partition (d.overrideRows r.user r.filter) = .error e) :
    (((inMemory timeout).part r .overrides).run w).1 =
      .error (.failed (e.context "get user permission overrides")) := by
  have hwork : ∀ w, ((PartKind.overrides.work r (d.transaction Memory)).run w).1 =
      .error (.failed e) := fun w =>
    congrArg (Except.mapError Stop.failed) he
  rw [part_eq, run_context]
  dsimp only
  rw [Store.run_transact (begin_of_snapshot hd), hwork]
  obtain ⟨w₁, hrun, -⟩ := Transaction.run_finish_failed (α := Overrides) (d.transaction Memory) e
    ((PartKind.overrides.work r (d.transaction Memory)).run (w.stepped (.begin r.tenant))).2
  exact congrArg (fun x => Except.mapError _ x.1) hrun

/-! ## Tasks -/

/-- A failure at the start that no other task comes before decides. -/
theorem settle_of_failure {σ : Type} {s : Service σ} {tasks : List Task} {failed : Event}
    {later : List Event} (hkinds : tasks.map Task.kind = PartKind.asked r)
    (hfailures : failures tasks = failed :: later) (hstart : failed.instant = ⟨0⟩) (w : World σ) :
    (s.settle r c tasks w).1 = ⟨.error failed.cause.error, ⟨0⟩⟩ := by
  have hfirst : failed.First (failures tasks ++ (s.limits c).events) := by
    rw [hfailures]
    refine Event.first_cons fun x _ => ?_
    rw [hstart]
    exact Nat.zero_le _
  have hnot : ¬ Quiet (s.limits c) tasks := fun hq => by
    have hnone := hq.1
    rw [hfailures] at hnone
    cases hnone
  obtain ⟨e, he, -, hsettle⟩ := settle_of_not_quiet hkinds hnot w
  obtain rfl := he.unique hfirst
  rw [hsettle, hstart]

/-- Nothing in memory takes time, so what fails has failed at the start. -/
theorem failure?_ending (n : Nat) (kind : PartKind) (w : World Memory) :
    Task.failure? ⟨n, kind, ((inMemory timeout).ending r kind w).1⟩ =
      match (((inMemory timeout).part r kind).run w).1 with
      | .ok _ => none
      | .error stop => some ⟨⟨0⟩, .failed (stop.error n)⟩ := by
  have hending : ((inMemory timeout).ending r kind w).1 =
      ⟨⟨0⟩, (((inMemory timeout).part r kind).run w).1⟩ := rfl
  rw [hending]
  rcases (((inMemory timeout).part r kind).run w).1 with stop | answer
  · rfl
  · rfl

theorem failures_cons (t : Task) (tasks : List Task) :
    failures (t :: tasks) = t.failure?.toList ++ failures tasks := by
  unfold failures
  rw [List.filterMap_cons]
  cases t.failure? with
  | none => rfl
  | some e => rfl

/-- The role map is built first, and then the overrides are read. -/
theorem exists_failures_spawn {σ : Type} (s : Service σ) (r : ViewRequest) (n : Nat) (w : World σ) :
    ∃ later, failures (s.spawn r n (PartKind.asked r) w).1 =
      (Task.failure? ⟨n, .roleMap, (s.ending r .roleMap w).1⟩).toList ++
        ((Task.failure? ⟨n + 1, .overrides,
          (s.ending r .overrides (s.ending r .roleMap w).2).1⟩).toList ++ later) :=
  ⟨_, (failures_cons _ _).trans (congrArg _ (failures_cons _ _))⟩

/-! ## Requests -/

/-- Without data, the error is the one of the role map, which is asked for first. -/
theorem resolve_of_missing {e : Error} (hc : c ≠ .before)
    (he : w.state.snapshot? r.tenant = .error e) : ((inMemory timeout).resolve r c w).1 =
      ⟨.error ((e.context "get tenant connection").context "get tenant role map"), ⟨0⟩⟩ := by
  obtain ⟨tasks, w₁, w₂, hspawn, hkinds, -, hresolve⟩ :=
    exists_settle (s := inMemory timeout) (r := r) (w := w) hc
  obtain ⟨later, hfailures⟩ :=
    exists_failures_spawn (inMemory timeout) r (w.tasks + 1) (w.logged [started r])
  have hrun := run_part_of_missing (w := w.logged [started r]) timeout he .roleMap
  rw [hspawn, failure?_ending, hrun] at hfailures
  rw [hresolve]
  exact settle_of_failure hkinds hfailures rfl w₂

theorem resolve_of_unknown {e : Error} (hc : c ≠ .before)
    (hd : w.state.snapshot? r.tenant = .ok d)
    (he : Overrides.partition (d.overrideRows r.user r.filter) = .error e) :
    ((inMemory timeout).resolve r c w).1 =
      ⟨.error (e.context "get user permission overrides"), ⟨0⟩⟩ := by
  obtain ⟨tasks, w₁, w₂, hspawn, hkinds, -, hresolve⟩ :=
    exists_settle (s := inMemory timeout) (r := r) (w := w) hc
  obtain ⟨later, hfailures⟩ :=
    exists_failures_spawn (inMemory timeout) r (w.tasks + 1) (w.logged [started r])
  have hroleMap : (((inMemory timeout).part r .roleMap).run (w.logged [started r])).1 =
      .ok (d.roleMap r.filter) := gives_tenantRoleMap hd _ rfl
  have hfixed : (inMemory timeout).store.Alike (fun a b => a = w.state ∧ b = w.state)
      (inMemory timeout).store := fixed_memoryStore w.state
  have hstate : ((inMemory timeout).ending r .roleMap (w.logged [started r])).2.state = w.state :=
    keeps_part hfixed ⟨w.state, rfl⟩ .roleMap (w.logged [started r]) rfl
  -- the role map is built from the same data, so the overrides are the first to fail
  have hoverrides := run_overrides_of_error timeout (hstate ▸ hd) he
  rw [hspawn, failure?_ending, hroleMap, failure?_ending, hoverrides] at hfailures
  rw [hresolve]
  exact settle_of_failure hkinds hfailures rfl w₂

/-- With data, the request comes to the view of its user, unless an override is of an unknown
kind. -/
theorem resolve_of_layering (hc : c ≠ .before) (hd : w.state.snapshot? r.tenant = .ok d)
    (hl : d.Layering r.user layers) :
    ((inMemory timeout).resolve r c w).1 =
      ⟨((Overrides.partition (d.overrideRows r.user r.filter)).mapError
        (·.context "get user permission overrides")).map (d.view r layers.flatten), ⟨0⟩⟩ := by
  rcases ho : Overrides.partition (d.overrideRows r.user r.filter) with e | o
  · exact resolve_of_unknown hc hd ho
  · have hv : ((inMemory timeout).resolve r c w).1.result =
        .ok (d.view r layers.flatten o) :=
      resolve_of_answers hc (Store.Answers.of_layering hd hl ho)
    obtain ⟨tasks, w₁, w₂, hspawn, hkinds, -, hresolve⟩ :=
      exists_settle (s := (inMemory timeout)) (r := r) (w := w) hc
    rw [hresolve] at hv ⊢
    obtain ⟨v, hsettle, -⟩ := settle_of_quiet hkinds (quiet_of_settle hkinds hv) w₂
    rw [hsettle] at hv ⊢
    obtain rfl : v = d.view r layers.flatten o := Except.ok.inj hv
    have hlast : lastEnd tasks = 0 := by
      refine Nat.le_zero.1 (lastEnd_le_iff.2 fun t ht => ?_)
      obtain ⟨w₃, -, hending⟩ := exists_ending_of_mem_spawn (P := fun _ => True)
        (fun _ _ _ => trivial) trivial (by rwa [hspawn])
      unfold Task.instant
      rw [hending]
      exact Nat.le_refl 0
    rw [hlast]
    rfl

/-! ## Other tenants, other users -/

end Service

theorem Dataset.Reorders.view_eq (h : d.Reorders r.user d') (roles : List Role) (o : Overrides) :
    d.view r roles o = d'.view r roles o := by
  unfold Dataset.view
  rw [h.userResources_eq, h.roleMap_eq, h.tenantPermissions_eq, h.rolePermissions_eq]

namespace Service

/-- A view of data in which no two roles share a name has one response, whichever order its nodes
come in. -/
theorem ofView_eq_of_resolve {v : View} (hd : w.state.snapshot? r.tenant = .ok d)
    (hroles : (d.roles.rows.map Role.name).Nodup)
    (hv : ((inMemory timeout).resolve r c w).1.result = .ok v) (order order' : NodeOrder) :
    Response.ofView r.tenant r.user (some v) order =
      Response.ofView r.tenant r.user (some v) order' := by
  have hnames := (resolves_of_resolve hd hv).nodup_names hroles
  have hgraph : RoleGraph.ofMap v.roleMap order = RoleGraph.ofMap v.roleMap order' :=
    RoleGraph.ofMap_congr hnames (.refl _)
  dsimp only [Response.ofView]
  rw [hgraph]

/-- **What other tenants and other users have does not matter**, to the answer or the error of a
request or to the response that is sent. The nodes of its graph may come in any order, which decides
only where two roles of the tenant share a name: the same responses may be sent, and if no two roles
do, there is one. -/
theorem resolve_eq_of_sameFor (h : Memory.SameFor r.tenant r.user w.state w'.state) :
    ((inMemory timeout).resolve r c w).1 =
      ((inMemory timeout).resolve r c w').1 ∧
    (∀ order, (((inMemory timeout).resolve r c w).1.result.map fun v =>
      Response.ofView r.tenant r.user (some v) order) =
    (((inMemory timeout).resolve r c w').1.result.map fun v =>
      Response.ofView r.tenant r.user (some v) order)) ∧
    ((∀ d, w.state.snapshot? r.tenant = .ok d → (d.roles.rows.map Role.name).Nodup) →
      ∀ order order', (((inMemory timeout).resolve r c w).1.result.map fun v =>
        Response.ofView r.tenant r.user (some v) order) =
      (((inMemory timeout).resolve r c w').1.result.map fun v =>
        Response.ofView r.tenant r.user (some v) order')) := by
  have heq : ((inMemory timeout).resolve r c w).1 = ((inMemory timeout).resolve r c w').1 := by
    by_cases hc : c = .before
    · unfold resolve
      rw [if_pos hc, if_pos hc]
    · rcases h.snapshot with ⟨d, d', hd, hd', hsame⟩ | ⟨e, he, he'⟩
      · obtain ⟨layers, hl⟩ := d.exists_layering r.user
        have hview : d.view r layers.flatten = d'.view r layers.flatten :=
          funext fun o => hsame.reorders.view_eq layers.flatten o
        rw [resolve_of_layering hc hd hl,
          resolve_of_layering hc hd' (hsame.reorders.layering_iff.1 hl), hsame.overrideRows_eq,
          hview]
      · rw [resolve_of_missing hc he, resolve_of_missing hc he']
  refine ⟨heq, fun order => by rw [heq], fun hroles order order' => ?_⟩
  rw [← heq]
  rcases hv : ((inMemory timeout).resolve r c w).1.result with e | v
  · rfl
  · obtain ⟨d, hd⟩ := (answers_of_resolve hv).exists_snapshot
    exact congrArg Except.ok (ofView_eq_of_resolve hd (hroles d hd) hv order order')

end Service

/-- The yard with a farrier, whose override is of no known kind. -/
def farrierData : Dataset :=
  let farrier : UserId := ⟨"farrier", by decide⟩
  { yardData with
    assignments := (farrier, "r2") :: yardData.assignments
    overrides := (farrier, "p2", "maybe") :: yardData.overrides
    resources := yardData.resources ++ [(farrier, ⟨"h1", "horses"⟩)] }

/-- Another tenant, and the yard with a farrier. -/
def farrierMemory : Memory :=
  (Memory.empty.put ⟨"track", by decide⟩ .empty).put riderRequest.tenant farrierData

theorem sameFor_farrierMemory :
    Memory.SameFor riderRequest.tenant riderRequest.user yardMemory farrierMemory := by
  have hsame : yardData.SameFor riderRequest.user farrierData :=
    ⟨.refl _, .refl _, rfl, rfl, by decide, by decide, by decide⟩
  exact Option.Rel.some (a := TenantData.mk riderRequest.tenant yardData)
    (b := TenantData.mk riderRequest.tenant farrierData) hsame

theorem resolve_rider_farrier :
    Memory.SameFor riderRequest.tenant riderRequest.user yardMemory farrierMemory ∧
    (yardData.roles.rows.map Role.name).Nodup ∧
    ((Service.inMemory none).resolve riderRequest .never (.ofState yardMemory)).1 =
      ((Service.inMemory none).resolve riderRequest .never (.ofState farrierMemory)).1 ∧
    ∀ order order', (((Service.inMemory none).resolve riderRequest .never
        (.ofState yardMemory)).1.result.map fun v =>
          Response.ofView riderRequest.tenant riderRequest.user (some v) order) =
      (((Service.inMemory none).resolve riderRequest .never
        (.ofState farrierMemory)).1.result.map fun v =>
          Response.ofView riderRequest.tenant riderRequest.user (some v) order') := by
  have hnames : (yardData.roles.rows.map Role.name).Nodup := by decide +kernel
  obtain ⟨hresult, -, hresponse⟩ := @Service.resolve_eq_of_sameFor none riderRequest .never
    (.ofState yardMemory) (.ofState farrierMemory) sameFor_farrierMemory
  refine ⟨sameFor_farrierMemory, hnames, hresult, hresponse fun d hd => ?_⟩
  obtain rfl : yardData = d :=
    Except.ok.inj ((Memory.snapshot?_put .empty riderRequest.tenant yardData).symm.trans hd)
  exact hnames

namespace Service

/-! ## The order of rows -/

theorem resolve_eq_ok_iff {v : View} (hc : c ≠ .before) (hd : w.state.snapshot? r.tenant = .ok d)
    (hl : d.Layering r.user layers) :
    ((inMemory timeout).resolve r c w).1.result = .ok v ↔
      ∃ o, Overrides.partition (d.overrideRows r.user r.filter) = .ok o ∧
        v = d.view r layers.flatten o := by
  rw [resolve_of_layering hc hd hl]
  rcases Overrides.partition (d.overrideRows r.user r.filter) with e | o
  · exact ⟨nofun, fun ⟨_, ho, _⟩ => nomatch ho⟩
  · constructor
    · intro h
      exact ⟨o, rfl, (Except.ok.inj h).symm⟩
    · rintro ⟨_, ho, rfl⟩
      cases ho
      rfl

theorem root_of_resolve_error {e : Error} (hc : c ≠ .before)
    (hd : w.state.snapshot? r.tenant = .ok d)
    (he : ((inMemory timeout).resolve r c w).1.result = .error e) :
    ∃ kind, e.root = .unknownOverride kind := by
  obtain ⟨layers, hl⟩ := d.exists_layering r.user
  rw [resolve_of_layering hc hd hl] at he
  rcases ho : Overrides.partition (d.overrideRows r.user r.filter) with cause | o
  · obtain ⟨kind, rfl⟩ := Overrides.exists_unknown_of_partition ho
    rw [ho] at he
    cases he
    exact ⟨kind, rfl⟩
  · rw [ho] at he
    cases he

/-- **The order of rows does not matter**: a view that one order is answered with, any other is, and
what fails, fails on an override of an unknown kind. -/
theorem resolve_of_shuffled (h : d.Shuffled d') (hc : c ≠ .before)
    (hd : w.state.snapshot? r.tenant = .ok d) (hd' : w'.state.snapshot? r.tenant = .ok d') :
    (∀ v, ((inMemory timeout).resolve r c w).1.result = .ok v ↔
      ((inMemory timeout).resolve r c w').1.result = .ok v) ∧
    (∀ e, ((inMemory timeout).resolve r c w).1.result = .error e →
      ∃ kind, e.root = .unknownOverride kind) ∧
    ∀ e, ((inMemory timeout).resolve r c w').1.result = .error e →
      ∃ kind, e.root = .unknownOverride kind := by
  refine ⟨fun v => ?_, fun e => root_of_resolve_error hc hd, fun e => root_of_resolve_error hc hd'⟩
  obtain ⟨layers, hl⟩ := d.exists_layering r.user
  have hsame := h.reorders r.user
  rw [resolve_eq_ok_iff hc hd hl, resolve_eq_ok_iff hc hd' (hsame.layering_iff.1 hl)]
  simp only [hsame.partition_eq_ok_iff, hsame.view_eq]

end Service

/-- All rows the other way round. -/
def Dataset.reversed (d : Dataset) : Dataset where
  roles := d.roles
  permissions := d.permissions
  grants := d.grants.reverse
  edges := d.edges.reverse
  assignments := d.assignments.reverse
  overrides := d.overrides.reverse
  resources := d.resources.reverse

theorem Dataset.shuffled_reversed (d : Dataset) : d.Shuffled d.reversed where
  roles := .refl _
  permissions := .refl _
  grants := (List.reverse_perm _).symm
  edges := (List.reverse_perm _).symm
  assignments := (List.reverse_perm _).symm
  overrides := (List.reverse_perm _).symm
  resources := (List.reverse_perm _).symm

theorem resolve_rider_reversed : ∃ v,
    ((Service.inMemory none).resolve riderRequest .never
      (.ofState yardMemory)).1.result = .ok v ∧
    ((Service.inMemory none).resolve riderRequest .never
      (.ofState (Memory.empty.put riderRequest.tenant yardData.reversed))).1.result = .ok v ∧
    v.effective = [⟨"p1", "horses:read"⟩, ⟨"p3", "tack:read"⟩] := by
  obtain ⟨v, hv, heffective⟩ := exists_view_rider
  have hshuffled := @Service.resolve_of_shuffled yardData yardData.reversed none
    riderRequest .never (.ofState yardMemory)
    (.ofState (Memory.empty.put riderRequest.tenant yardData.reversed))
    yardData.shuffled_reversed nofun (Memory.snapshot?_put _ _ _) (Memory.snapshot?_put _ _ _)
  exact ⟨v, hv, (hshuffled.1 v).1 hv, heffective⟩

end Entitlement
