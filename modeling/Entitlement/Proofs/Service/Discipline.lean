import Entitlement.Proofs.Role.Diagnosis
import Entitlement.Proofs.Role.Queries
import Entitlement.Proofs.Service.Work

/-!
# One transaction a call

* `Transaction.heeds_work` : a call does nothing in its transaction but ask;
* `Service.part_closes` : what becomes of the transaction, and of the call, whatever the store does.
-/

namespace Entitlement
open Run
variable {σ : Type}

namespace Transaction
variable {tx : Transaction σ}

/-- The answers about roles cannot be flawed. -/
theorem flaw?_of_nodeQueries {known : List RoleId} {f : Filter} {roles : List Role}
    {xs : List (Exchange known)}
    (h : ∀ q ∈ xs.map (·.query), q ∈ roles.flatMap (nodeQueries f)) :
    ∀ e ∈ xs, e.query.flaw? e.rows = none := by
  rintro ⟨q, rows⟩ he
  obtain ⟨r, -, hq⟩ := List.mem_flatMap.1 (h q (List.mem_map_of_mem he))
  rcases List.mem_cons.1 hq with rfl | hq
  · rfl
  · obtain rfl := List.mem_singleton.1 hq
    rfl

theorem heeds_resolveRoles (user : UserId) : tx.Heeds (resolveRoles tx user) := by
  have hlevels (levels : List (Level tx.known)) :
      ∀ e ∈ levels.map Level.exchange, e.query.flaw? e.rows = none :=
    List.forall_mem_map.2 fun _ _ => rfl
  refine (consults_resolveRoles user).heeds ?_ ?_
  · rintro _ _ ⟨direct, levels, rfl, -⟩
    exact List.forall_mem_cons.2 ⟨rfl, hlevels levels⟩
  · rintro _ _ stop _ (⟨rfl, -, rfl⟩ | ⟨direct, _, rfl, levels, _, _, rfl, -, -, -, rfl⟩)
    · exact ⟨stop.root_context _, nofun⟩
    · exact ⟨stop.root_context _, List.forall_mem_cons.2 ⟨rfl, hlevels levels⟩⟩

theorem heeds_buildRoleMap (f : Filter) : tx.Heeds (buildRoleMap tx f) := by
  refine (consults_buildRoleMap tx f).heeds ?_ ?_
  · rintro _ _ ⟨roles, ys, rfl, hys⟩
    exact List.forall_mem_cons.2 ⟨rfl, flaw?_of_nodeQueries fun q hq => hys ▸ hq⟩
  · rintro _ _ stop _ ⟨rfl, hxs⟩
    refine ⟨stop.root_context _, ?_⟩
    rcases hxs with ⟨rfl, -⟩ | ⟨roles, ys, after, rfl, hplan⟩
    · nofun
    · have hys : ∀ q ∈ ys.map (·.query), q ∈ roles.flatMap (nodeQueries f) := by
        intro q hq
        rw [hplan]
        exact List.mem_append_left _ hq
      exact List.forall_mem_cons.2 ⟨rfl, flaw?_of_nodeQueries hys⟩

theorem heeds_work (tx : Transaction σ) (r : ViewRequest) (kind : PartKind) :
    tx.Heeds (kind.work r tx) := by
  cases kind with
  | roleMap => exact heeds_buildRoleMap r.filter
  | overrides => exact heeds_overrides r.user r.filter
  | roles => exact heeds_resolveRoles r.user
  | resources => exact heeds_query fun _ => rfl
  | tenantPermissions => exact heeds_query fun _ => rfl
  | userPermissions =>
    have hask : ∀ roles : List Role,
        tx.Heeds (tx.query (.rolePermissions (Role.ids roles) r.filter)) :=
      fun roles => heeds_query fun _ => rfl
    exact (heeds_resolveRoles r.user).bind fun roles => (heeds_pure []).ite _ (hask roles)

end Transaction

namespace Service

/-- **Each call ends its transaction once, and fails with the first failure.** If no transaction
begins, nothing else is asked of the store. Otherwise the queries of the call come after the
beginning, none after one that failed or whose rows are flawed, and then one commit if all went
well, and one rollback if not. The call succeeds exactly if all queries and the commit did. The
error of a call that failed has the root of the first failure inside the call's own operation; an
error of the commit is not rolled back, and an error of the rollback changes nothing. -/
theorem part_closes (s : Service σ) (r : ViewRequest) (kind : PartKind) (w : World σ) :
    let out := (s.part r kind).run w
    (∀ stop s₁, s.store.begin r.tenant w.state = (.error stop, s₁) →
      out = (.error ((stop.context "get tenant connection").context kind.operation),
        { w with state := s₁ })) ∧
    ∀ tx s₁, s.store.begin r.tenant w.state = (.ok tx, s₁) →
      ∃ qs fault s₂, tx.Asks s₁ qs fault s₂ ∧
        out.2.journal.steps =
          w.journal.steps ++ .begin r.tenant :: qs.map .query ++ Transaction.closing fault ∧
        tx.Closes kind.operation s₂ out.1 out.2.state fault ∧
        ((∃ answer, out.1 = .ok answer) ↔ fault = none ∧ (tx.commit s₂).1 = .ok ()) := by
  intro out
  have hout : out = (context kind.operation
      (s.store.transact r.tenant fun tx => kind.work r tx)).run w :=
    congrArg (fun x => x.run w) (s.part_eq r kind)
  refine ⟨fun stop s₁ hbegin => ?_, fun tx s₁ hbegin => ?_⟩
  · rw [hout, run_context, Store.run_transact_refused hbegin]
    rfl
  · obtain ⟨qs, fault, s₂, hasks, hsteps, hcloses⟩ := Store.closes_transact
      (fun tx => kind.work r tx) hbegin (tx.heeds_work r kind) kind.operation
    rw [hout]
    exact ⟨qs, fault, s₂, hasks, hsteps, hcloses, hcloses.ok_iff⟩

end Service

end Entitlement
