import Entitlement.Proofs.Service.Calls
import Entitlement.Proofs.Service.Discipline

/-!
# Requests and single calls

* `Step.transcript`, `exists_transcripts_of_resolve` : what is done in the transactions of a request
  that succeeds;
* `Service.exists_resolve_withFaults` : delays make no request fail that has no limit;
* `Service.view_agrees_with_calls` : a view holds what single calls are answered with, however long
  each part takes.
-/

namespace Entitlement
open Run
variable {σ : Type}

/-! ## Transactions of a request -/

namespace Step

/-- What is done in the transaction of a call that succeeds. -/
def transcript (tenant : TenantId) (qs : List Query) : List Step :=
  .begin tenant :: qs.map .query ++ [.commit]

theorem name_ne (q : Query) : q.name ≠ "begin" ∧ q.name ≠ "commit" ∧ q.name ≠ "rollback" := by
  cases q <;> simp [Query.name]

theorem countP_query {name : String} (hname : ∀ q : Query, q.name ≠ name) (qs : List Query) :
    (qs.map Step.query).countP (·.name = name) = 0 := by
  rw [List.countP_eq_zero]
  intro step hstep
  obtain ⟨q, -, rfl⟩ := List.mem_map.1 hstep
  exact fun h => hname q (of_decide_eq_true h)

/-- A name that no query has is counted at the ends of each transcript only. -/
theorem countP_transcripts {name : String} (hname : ∀ q : Query, q.name ≠ name) (tenant : TenantId)
    (queries : List (List Query)) :
    (queries.flatMap (transcript tenant)).countP (·.name = name) =
      queries.length * [Step.begin tenant, .commit].countP (·.name = name) := by
  induction queries with
  | nil => simp
  | cons qs queries ih =>
    have hone : (transcript tenant qs).countP (·.name = name) =
        [Step.begin tenant, .commit].countP (·.name = name) := by
      have hsplit : transcript tenant qs = [.begin tenant] ++ (qs.map .query ++ [.commit]) := rfl
      have hends : [Step.begin tenant, .commit] = [.begin tenant] ++ [.commit] := rfl
      rw [hsplit, hends, List.countP_append, List.countP_append, List.countP_append,
        countP_query hname, Nat.zero_add]
    rw [List.flatMap_cons, List.countP_append, ih, hone, List.length_cons, Nat.succ_mul,
      Nat.add_comm]

end Step

namespace Service
variable {s : Service σ} {r : ViewRequest} {c : Cancellation} {v : View} {w : World σ}

theorem steps_settle (tasks : List Task) (w : World σ) :
    (s.settle r c tasks w).2.journal.steps = w.journal.steps := by
  unfold settle
  dsimp only
  split
  · rfl
  · split
    · rfl
    · rfl

theorem exists_transcript_of_ok {kind : PartKind} {answer : kind.Answer}
    (hrun : ((s.part r kind).run w).1 = .ok answer) :
    ∃ qs, ((s.part r kind).run w).2.journal.steps =
      w.journal.steps ++ Step.transcript r.tenant qs := by
  rw [part_eq] at hrun ⊢
  rcases hbegin : s.store.begin r.tenant w.state with ⟨stop | tx, s₁⟩
  · rw [run_context, Store.run_transact_refused hbegin] at hrun
    cases hrun
  · obtain ⟨qs, fault, s₂, -, hsteps, hcloses⟩ := Store.closes_transact
      (fun tx => kind.work r tx) hbegin (tx.heeds_work r kind) kind.operation
    obtain ⟨rfl, -⟩ := hcloses.ok_iff.1 ⟨answer, hrun⟩
    refine ⟨qs, ?_⟩
    rw [hsteps, List.append_assoc]
    rfl

theorem exists_transcripts_spawn {n : Nat} {kinds : List PartKind}
    (hok : ∀ t ∈ (s.spawn r n kinds w).1, t.failure? = none) :
    ∃ queries : List (List Query), queries.length = kinds.length ∧
      (s.spawn r n kinds w).2.journal.steps =
        w.journal.steps ++ queries.flatMap (Step.transcript r.tenant) := by
  induction kinds generalizing n w with
  | nil => exact ⟨[], rfl, (List.append_nil _).symm⟩
  | cons kind kinds ih =>
    have hfirst : ∃ answer, ((s.part r kind).run w).1 = .ok answer := by
      obtain ⟨answer, hout⟩ := Task.exists_outcome_of_failure? (hok _ List.mem_cons_self)
      exact ⟨answer, Task.result_of_outcome hout⟩
    obtain ⟨answer, hrun⟩ := hfirst
    obtain ⟨qs, hqs⟩ := exists_transcript_of_ok hrun
    obtain ⟨queries, hlength, hsteps⟩ := ih fun t ht => hok t (List.mem_cons_of_mem _ ht)
    refine ⟨qs :: queries, congrArg (· + 1) hlength, ?_⟩
    rw [List.flatMap_cons, ← List.append_assoc, ← hqs]
    exact hsteps

/-- What is done for a request that succeeds. -/
theorem exists_transcripts_of_resolve (hv : (s.resolve r c w).1.result = .ok v) :
    ∃ queries : List (List Query), queries.length = (PartKind.asked r).length ∧
      (s.resolve r c w).2.journal.steps =
        w.journal.steps ++ queries.flatMap (Step.transcript r.tenant) := by
  obtain ⟨tasks, w₁, w₂, hspawn, hkinds, hjournal, hresolve⟩ := exists_settle (s := s) (r := r) (w := w)
    (ne_before_of_resolve hv)
  rw [hresolve] at hv
  have hok : ∀ t ∈ tasks, t.failure? = none :=
    List.filterMap_eq_nil_iff.1 (quiet_of_settle hkinds hv).1
  have htasks : ∀ t ∈ (s.spawn r (w.tasks + 1) (PartKind.asked r) (w.logged [started r])).1,
      t.failure? = none := by
    rw [hspawn]
    exact hok
  obtain ⟨queries, hlength, hsteps⟩ := exists_transcripts_spawn htasks
  rw [hspawn] at hsteps
  refine ⟨queries, hlength, ?_⟩
  rw [hresolve, steps_settle, hjournal]
  exact hsteps

/-- One transaction a part, and each of them committed. -/
theorem count_of_resolve (hv : (s.resolve r c w).1.result = .ok v) :
    (s.resolve r c w).2.journal.count "begin" =
        w.journal.count "begin" + (PartKind.asked r).length ∧
      (s.resolve r c w).2.journal.count "commit" =
        w.journal.count "commit" + (PartKind.asked r).length ∧
      (s.resolve r c w).2.journal.count "rollback" = w.journal.count "rollback" := by
  obtain ⟨queries, hlength, hsteps⟩ := exists_transcripts_of_resolve hv
  have hcount : ∀ name, (∀ q : Query, q.name ≠ name) →
      (s.resolve r c w).2.journal.count name = w.journal.count name +
        (PartKind.asked r).length * [Step.begin r.tenant, .commit].countP (·.name = name) := by
    intro name hname
    unfold Journal.count
    rw [hsteps, List.countP_append, Step.countP_transcripts hname, hlength]
  refine ⟨?_, ?_, ?_⟩
  · rw [hcount "begin" fun q => (Step.name_ne q).1]
    simp [Step.name]
  · rw [hcount "commit" fun q => (Step.name_ne q).2.1]
    simp [Step.name]
  · rw [hcount "rollback" fun q => (Step.name_ne q).2.2]
    simp [Step.name]

end Service

/-! ## Delays -/

/-- Delays make no request fail that has no limit. -/
theorem Service.exists_resolve_withFaults {store : Store σ} {P : σ → Prop} (hfixed : store.Fixed P)
    {delays : Faults} (hdelays : delays.OnlyDelay) {timeout : Option Span} {r : ViewRequest}
    {c : Cancellation} {v : View} {w : World σ} {w' : World (Faulty σ)} (hw : P w.state)
    (hw' : P w'.state.inner)
    (hv : ((⟨store, timeout⟩ : Service σ).resolve r c w).1.result = .ok v) :
    ∃ v', ((⟨store.withFaults delays, none⟩ : Service (Faulty σ)).resolve r .never w').1.result =
      .ok v' := by
  have hP : ∃ b, P b := ⟨w.state, hw⟩
  have hsame : (⟨store, timeout⟩ : Service σ).store.Alike (fun a b => P a ∧ P b)
      (⟨store, timeout⟩ : Service σ).store := hfixed
  have hdelayed : (⟨store.withFaults delays, none⟩ : Service (Faulty σ)).store.Alike
      (fun a b => P a.inner ∧ P b) (⟨store, timeout⟩ : Service σ).store := hfixed.withFaults hdelays
  refine exists_resolve_of_gives (P := (P ·.inner)) (keeps_part hdelayed hP) hw' nofun ?_ nofun
  intro kind hkind
  obtain ⟨answer, hanswer⟩ := Option.isSome_iff_exists.1 ((isSome_parts_iff hv kind).2 hkind)
  refine ⟨answer, fun w₁ hw₁ => ?_⟩
  rw [agree_eq_iff.1 (alike_part hdelayed r kind w₁ w ⟨hw₁, hw⟩).1]
  exact gives_of_resolve hsame hP hw hv kind hanswer w hw

/-! ## Views and calls -/

/-- **A view holds what single calls are answered with.** The contents of the store do not change,
and its steps are delayed in any way, so the parts are done in any order. Then each part of a view
is what the call of its own gives; a projection is there if it was asked for, and asking for it
changes nothing else, also under other delays; and each part began one transaction and committed it,
and nothing was rolled back. If all parts succeed in time, what was gathered makes a view. -/
theorem Service.view_agrees_with_calls {store : Store σ} {P : σ → Prop} (hfixed : store.Fixed P)
    {delays : Faults} (hdelays : delays.OnlyDelay) (timeout : Option Span) (r : ViewRequest)
    (c : Cancellation) (w : World (Faulty σ)) (hw : P w.state.inner) :
    let s : Service (Faulty σ) := ⟨store.withFaults delays, timeout⟩
    (∀ v, (s.resolve r c w).1.result = .ok v →
      store.Answers P r v ∧
      (∀ (delays' : Faults) (timeout' : Option Span) (a b : Bool) (c' : Cancellation)
        (w' : World (Faulty σ)) (v' : View), delays'.OnlyDelay → P w'.state.inner →
        ((⟨store.withFaults delays', timeout'⟩ : Service (Faulty σ)).resolve
          { r with withTenantPermissions := a, withUserPermissions := b } c' w').1.result = .ok v' →
        v' = { v with
          tenantPermissions := v'.tenantPermissions, userPermissions := v'.userPermissions } ∧
        (a = r.withTenantPermissions → v'.tenantPermissions = v.tenantPermissions) ∧
        (b = r.withUserPermissions → v'.userPermissions = v.userPermissions)) ∧
      (∃ queries : List (List Query), queries.length = (PartKind.asked r).length ∧
        (s.resolve r c w).2.journal.steps =
          w.journal.steps ++ queries.flatMap (Step.transcript r.tenant)) ∧
      ((s.resolve r c w).2.journal.count "begin" =
          w.journal.count "begin" + (PartKind.asked r).length ∧
        (s.resolve r c w).2.journal.count "commit" =
          w.journal.count "commit" + (PartKind.asked r).length ∧
        (s.resolve r c w).2.journal.count "rollback" = w.journal.count "rollback")) ∧
    ∀ n w', Quiet (s.limits c) (s.spawn r n (PartKind.asked r) w').1 → ∃ parts v,
      (Gather.run (s.limits c) (.start (s.spawn r n (PartKind.asked r) w').1)).result = .ok parts ∧
      parts.assemble = .ok v := by
  intro s
  have hP : ∃ b, P b := ⟨w.state.inner, hw⟩
  refine ⟨fun v hv => ?_, fun n w' hq => ?_⟩
  · have hanswers : store.Answers P r v :=
      Store.answers_of_resolve (hfixed.withFaults hdelays) hP hw hv
    refine ⟨hanswers, ?_, exists_transcripts_of_resolve hv, count_of_resolve hv⟩
    intro delays' timeout' a b c' w' v' hdelays' hw' hv'
    have hanswers' := Store.answers_of_resolve (hfixed.withFaults hdelays') hP hw' hv'
    exact hanswers.eq_of_flags hP hanswers'
  · obtain ⟨v, hv, -⟩ := settle_of_quiet (map_kind_spawn n _ w') hq w'
    obtain ⟨parts, hparts, hassemble⟩ := exists_assemble_of_settle (congrArg Resolution.result hv)
    exact ⟨parts, v, hparts, hassemble⟩

/-! ## A part that ends last though it starts first -/

/-- Each role's permissions take their time, and the overrides some. -/
def slowRoleMap : Faults := fun name =>
  if name = "role_permissions" then some ⟨⟨5⟩, none, false, 0⟩
  else if name = "user_permission_overrides" then some ⟨⟨3⟩, none, false, 0⟩
  else none

theorem onlyDelay_slowRoleMap : slowRoleMap.OnlyDelay := by
  intro name fault h
  unfold slowRoleMap at h
  split at h
  · cases h
    rfl
  · split at h
    · cases h
      rfl
    · cases h

theorem view_agrees_delayed : ∃ v,
    ((⟨memoryStore.withFaults slowRoleMap, none⟩ : Service (Faulty Memory)).resolve riderRequest
      .never (.ofState (.ofState yardMemory))).1.result = .ok v ∧
    memoryStore.Answers (· = yardMemory) riderRequest v := by
  obtain ⟨v, hv, -⟩ := exists_view_rider
  have hfixed := fixed_memoryStore yardMemory
  have hstart : (World.ofState (Faulty.ofState yardMemory)).state.inner = yardMemory := rfl
  obtain ⟨v', hv'⟩ :=
    Service.exists_resolve_withFaults hfixed onlyDelay_slowRoleMap rfl hstart hv
  have hagrees := Service.view_agrees_with_calls hfixed onlyDelay_slowRoleMap none riderRequest
    .never (.ofState (.ofState yardMemory)) hstart
  exact ⟨v', hv', (hagrees.1 v' hv').1⟩

end Entitlement
