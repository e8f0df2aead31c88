import Entitlement.Proofs.Service.Resolve
import Entitlement.Proofs.Service.Work
import Entitlement.Proofs.Store.Alike

/-!
# Views and single calls

* `Service.alike_part` : on stores that answer alike, a call comes to the same;
* `Run.Gives`, `Store.Answers` : what a call is answered with in all states of a set, and a view
  that holds such answers;
* `Service.gives_of_resolve`, `Store.answers_of_resolve` : a view of a service holds what a store
  that answers alike gives to the calls;
* `Service.exists_resolve_of_gives` : a request whose parts succeed in time succeeds.
-/

namespace Entitlement
open Run
variable {σ τ : Type} {R : σ → τ → Prop}

/-! ## Calls on stores that answer alike -/

theorem Transaction.alike_work {tx : Transaction σ} {tx' : Transaction τ} (h : tx.Alike R tx')
    (r : ViewRequest) (kind : PartKind) : Run.Alike R Eq (kind.work r tx) (kind.work r tx') := by
  have hroles := alike_resolveRoles h r.user
  cases kind with
  | roleMap => exact alike_buildRoleMap h r.filter
  | overrides =>
    refine (alike_query h _).bind fun rows rows' hrows => ?_
    have heq : (rows : List OverrideRow) = rows' := hrows
    subst heq
    exact alike_ofResult _
  | roles => exact hroles
  | resources => exact alike_query h (.resources r.user r.filter)
  | tenantPermissions => exact alike_query h (.tenantPermissions r.filter)
  | userPermissions =>
    refine hroles.bind fun roles roles' hroles => ?_
    subst hroles
    exact (alike_pure rfl).ite _ (alike_query h (.rolePermissions (Role.ids roles) r.filter))

theorem Service.alike_part {s : Service σ} {s' : Service τ} (h : s.store.Alike R s'.store)
    (r : ViewRequest) (kind : PartKind) : Run.Alike R Eq (s.part r kind) (s'.part r kind) := by
  rw [part_eq, part_eq]
  have hwork : ∀ (tx : Transaction σ) (tx' : Transaction τ), tx.Alike R tx' →
      Run.Alike R Eq (kind.work r tx) (kind.work r tx') :=
    fun tx tx' htx => Transaction.alike_work htx r kind
  exact (Store.alike_transact h r.tenant hwork).context _

/-! ## Answers that do not change -/

namespace Run
variable {α : Type} {P : σ → Prop} {x : Run σ α}

/-- In every state of a set. -/
def Gives (P : σ → Prop) (x : Run σ α) (a : α) : Prop := ∀ w, P w.state → (x.run w).1 = .ok a

/-- What it gives if that is asked for, and nothing otherwise. -/
def GivesIf (P : σ → Prop) (x : Run σ α) (asked : Bool) (a : Option α) : Prop :=
  if asked then ∃ b, a = some b ∧ x.Gives P b else a = none

theorem givesIf_of_isSome {asked : Bool} {a : Option α} (ha : a.isSome = asked)
    (hx : ∀ b, a = some b → x.Gives P b) : x.GivesIf P asked a := by
  subst ha
  cases a with
  | none => rfl
  | some b => exact ⟨b, rfl, hx b rfl⟩

theorem Gives.givesIf {a : α} (h : x.Gives P a) (asked : Bool) :
    x.GivesIf P asked (if asked then some a else none) := by
  cases asked with
  | false => rfl
  | true => exact ⟨a, rfl, h⟩

theorem GivesIf.map {β : Type} {y : Run σ β} {g : α → β} {asked : Bool} {a : Option α}
    (h : x.GivesIf P asked a) (hg : ∀ b, x.Gives P b → y.Gives P (g b)) :
    y.GivesIf P asked (a.map g) := by
  cases asked with
  | false =>
    have hnone : a = none := h
    rw [hnone]
    rfl
  | true =>
    obtain ⟨b, rfl, hb⟩ := h
    exact ⟨g b, rfl, hg b hb⟩

theorem Gives.yields {a : α} {w : World σ} (h : x.Gives P a) (hw : P w.state) :
    x.Yields w a (x.run w).2 :=
  Prod.ext (h w hw) rfl

theorem Gives.unique {a b : α} (ha : x.Gives P a) (hb : x.Gives P b) (hP : ∃ s, P s) : a = b := by
  obtain ⟨s, hs⟩ := hP
  exact Except.ok.inj ((ha (.ofState s) hs).symm.trans (hb (.ofState s) hs))

theorem GivesIf.unique {asked : Bool} {a b : Option α} (ha : x.GivesIf P asked a)
    (hb : x.GivesIf P asked b) (hP : ∃ s, P s) : a = b := by
  cases asked with
  | false => exact Eq.trans ha (Eq.symm hb)
  | true =>
    obtain ⟨a, rfl, ha⟩ := ha
    obtain ⟨b, rfl, hb⟩ := hb
    rw [ha.unique hb hP]

end Run

/-! ## What a view holds -/

theorem PartKind.mem_asked {r : ViewRequest} {kind : PartKind} : kind ∈ asked r ↔
    match kind with
    | .tenantPermissions => r.withTenantPermissions = true
    | .userPermissions => r.withUserPermissions = true
    | _ => True := by
  unfold asked
  cases kind <;> cases r.withTenantPermissions <;> cases r.withUserPermissions <;> decide

namespace Service
variable {s : Service σ} {s' : Service τ} {r : ViewRequest} {c : Cancellation} {v : View}
  {w : World σ}

/-- Every part that was asked for is there, and no other. -/
theorem isSome_parts_iff (hv : (s.resolve r c w).1.result = .ok v) (kind : PartKind) :
    (v.parts kind).isSome = true ↔ kind ∈ PartKind.asked r := by
  obtain ⟨tasks, w₁, w₂, -, hkinds, -, hresolve⟩ := exists_settle (s := s) (r := r) (w := w)
    (ne_before_of_resolve hv)
  rw [hresolve] at hv
  have hcollects := collects_of_settle hkinds hv
  rw [← hkinds, List.mem_map, Option.isSome_iff_exists]
  constructor
  · rintro ⟨answer, hanswer⟩
    obtain ⟨t, ht, hout⟩ := (hcollects ⟨kind, answer⟩).1 hanswer
    exact ⟨t, ht, (Task.kind_of_outcome hout).symm⟩
  · rintro ⟨t, ht, rfl⟩
    have hnone : t.failure? = none :=
      List.filterMap_eq_nil_iff.1 (quiet_of_settle hkinds hv).1 t ht
    obtain ⟨answer, hanswer⟩ := Task.exists_outcome_of_failure? hnone
    exact ⟨answer, (hcollects ⟨t.kind, answer⟩).2 ⟨t, ht, hanswer⟩⟩

/-- Parts stay in a set of states in which another store answers alike. -/
theorem keeps_part {P : σ → Prop} {Q : τ → Prop}
    (h : s.store.Alike (fun a b => P a ∧ Q b) s'.store) (hQ : ∃ b, Q b) (kind : PartKind)
    (w : World σ) (hw : P w.state) : P ((s.part r kind).run w).2.state := by
  obtain ⟨b, hb⟩ := hQ
  exact (alike_part h r kind w (.ofState b) ⟨hw, hb⟩).2.1

/-- A part of a view is what a store that answers alike gives to the call, in all states of a
set. -/
theorem gives_of_resolve {P : σ → Prop} {Q : τ → Prop}
    (h : s.store.Alike (fun a b => P a ∧ Q b) s'.store) (hQ : ∃ b, Q b) (hw : P w.state)
    (hv : (s.resolve r c w).1.result = .ok v) (kind : PartKind) {answer : kind.Answer}
    (hanswer : v.parts kind = some answer) : (s'.part r kind).Gives Q answer := by
  obtain ⟨t, ht, hp⟩ := (collects_of_resolve hv ⟨kind, answer⟩).1 hanswer
  have hstarted : P (w.logged [started r]).state := hw
  obtain ⟨w₁, hw₁, hrun⟩ := exists_run_of_mem_spawn (keeps_part h hQ) hstarted ht hp
  intro w' hw'
  have hagree := (alike_part h r kind w₁ w' ⟨hw₁, hw'⟩).1
  rw [← agree_eq_iff.1 hagree]
  exact hrun

/-- A request succeeds if all its parts do, each before the limits. -/
theorem exists_resolve_of_gives {P : σ → Prop}
    (hP : ∀ kind w, P w.state → P ((s.part r kind).run w).2.state) (hw : P w.state)
    (hc : c ≠ .before)
    (hgives : ∀ kind ∈ PartKind.asked r, ∃ answer, (s.part r kind).Gives P answer)
    (htime : ∀ e ∈ (s.limits c).events, ∀ kind w₁, P w₁.state →
      (s.ending r kind w₁).1.instant.nanos ≤ e.instant.nanos) :
    ∃ v, (s.resolve r c w).1.result = .ok v := by
  obtain ⟨tasks, w₁, w₂, hspawn, hkinds, -, hresolve⟩ := exists_settle (s := s) (r := r) (w := w) hc
  have hstarted : P (w.logged [started r]).state := hw
  have hending : ∀ t ∈ tasks, ∃ w₀, P w₀.state ∧ t.ending = (s.ending r t.kind w₀).1 := by
    intro t ht
    have hmem : t ∈ (s.spawn r (w.tasks + 1) (PartKind.asked r) (w.logged [started r])).1 := by
      rw [hspawn]
      exact ht
    exact exists_ending_of_mem_spawn hP hstarted hmem
  have hfailures : failures tasks = [] := by
    refine List.filterMap_eq_nil_iff.2 fun t ht => Event.ofResult?_eq_none.2 ?_
    obtain ⟨w₀, hw₀, he⟩ := hending t ht
    obtain ⟨answer, hanswer⟩ := hgives t.kind (hkinds ▸ List.mem_map_of_mem ht)
    have hresult : t.ending.result = .ok answer := by
      rw [he]
      exact hanswer w₀ hw₀
    refine ⟨⟨t.kind, answer⟩, ?_⟩
    unfold Task.outcome
    rw [hresult]
  have hlimits : ∀ e ∈ (s.limits c).events, lastEnd tasks ≤ e.instant.nanos := by
    intro e he
    refine lastEnd_le_iff.2 fun t ht => ?_
    obtain ⟨w₀, hw₀, heq⟩ := hending t ht
    unfold Task.instant
    rw [heq]
    exact htime e he t.kind w₀ hw₀
  obtain ⟨v, hv, -⟩ := settle_of_quiet hkinds ⟨hfailures, hlimits⟩ w₂
  refine ⟨v, ?_⟩
  rw [hresolve, hv]

end Service

/-! ## Views and calls -/

/-- A view holds what a store gives to single calls, in all states of a set. -/
structure Store.Answers (store : Store σ) (P : σ → Prop) (r : ViewRequest) (v : View) : Prop where
  roles : (store.userRoles r.tenant r.user).Gives P v.roles
  overrides : (store.userOverrides r.tenant r.user r.filter).Gives P v.overrides
  resources : (store.userResources r.tenant r.user r.filter).Gives P v.resources
  roleMap : (store.tenantRoleMap r.tenant r.filter).Gives P v.roleMap
  tenantPermissions : (store.tenantPermissions r.tenant r.filter).GivesIf P
    r.withTenantPermissions v.tenantPermissions
  userPermissions : (store.userPermissions r.tenant r.user r.filter).GivesIf P
    r.withUserPermissions v.userPermissions

namespace Store
variable {store : Store σ} {s : Service τ} {P : τ → Prop} {Q : σ → Prop} {r : ViewRequest}
  {c : Cancellation} {v v' : View} {w : World τ}

theorem answers_of_resolve (h : s.store.Alike (fun a b => P a ∧ Q b) store) (hQ : ∃ b, Q b)
    (hw : P w.state) (hv : (s.resolve r c w).1.result = .ok v) : store.Answers Q r v := by
  have hgives : ∀ (kind : PartKind) (answer : kind.Answer), v.parts kind = some answer →
      ((⟨store, none⟩ : Service σ).part r kind).Gives Q answer :=
    fun kind answer => Service.gives_of_resolve h hQ hw hv kind
  have hsome := Service.isSome_parts_iff hv
  have htenant : v.tenantPermissions.isSome = r.withTenantPermissions :=
    Bool.eq_iff_iff.2 ((hsome .tenantPermissions).trans PartKind.mem_asked)
  have huser : v.userPermissions.isSome = r.withUserPermissions :=
    Bool.eq_iff_iff.2 ((hsome .userPermissions).trans PartKind.mem_asked)
  exact ⟨hgives .roles _ rfl, hgives .overrides _ rfl, hgives .resources _ rfl,
    hgives .roleMap _ rfl, givesIf_of_isSome htenant (hgives .tenantPermissions),
    givesIf_of_isSome huser (hgives .userPermissions)⟩

theorem answers_of_fixed {P : τ → Prop} (h : s.store.Fixed P) (hw : P w.state)
    (hv : (s.resolve r c w).1.result = .ok v) : s.store.Answers P r v :=
  answers_of_resolve h ⟨w.state, hw⟩ hw hv

theorem Answers.eq_of_flags {a b : Bool} (hP : ∃ b, Q b) (h : store.Answers Q r v)
    (h' : store.Answers Q { r with withTenantPermissions := a, withUserPermissions := b } v') :
    v' = { v with
      tenantPermissions := v'.tenantPermissions, userPermissions := v'.userPermissions } ∧
    (a = r.withTenantPermissions → v'.tenantPermissions = v.tenantPermissions) ∧
    (b = r.withUserPermissions → v'.userPermissions = v.userPermissions) := by
  refine ⟨?_, ?_, ?_⟩
  · have hroles := h'.roles.unique h.roles hP
    have hoverrides := h'.overrides.unique h.overrides hP
    have hresources := h'.resources.unique h.resources hP
    have hroleMap := h'.roleMap.unique h.roleMap hP
    rw [← hroles, ← hoverrides, ← hresources, ← hroleMap]
  · rintro rfl
    exact h'.tenantPermissions.unique h.tenantPermissions hP
  · rintro rfl
    exact h'.userPermissions.unique h.userPermissions hP

theorem Answers.unique (h : store.Answers Q r v) (h' : store.Answers Q r v') (hP : ∃ b, Q b) :
    v = v' := by
  obtain ⟨hfields, htenant, huser⟩ := h'.eq_of_flags hP h
  rw [hfields, htenant rfl, huser rfl]

/-- What was asked for is given. -/
theorem Answers.exists_gives (h : store.Answers Q r v) (timeout : Option Span) {kind : PartKind}
    (hkind : kind ∈ PartKind.asked r) :
    ∃ answer, ((⟨store, timeout⟩ : Service σ).part r kind).Gives Q answer := by
  rw [PartKind.mem_asked] at hkind
  cases kind with
  | roleMap => exact ⟨_, h.roleMap⟩
  | overrides => exact ⟨_, h.overrides⟩
  | roles => exact ⟨_, h.roles⟩
  | resources => exact ⟨_, h.resources⟩
  | tenantPermissions =>
    have hgives := h.tenantPermissions
    rw [hkind] at hgives
    exact hgives.imp fun _ hps => hps.2
  | userPermissions =>
    have hgives := h.userPermissions
    rw [hkind] at hgives
    exact hgives.imp fun _ hps => hps.2

end Store

end Entitlement
