import Entitlement.Proofs.Run
import Entitlement.Role.Build
import Entitlement.Role.Closure
import Entitlement.Store.Fault

/-!
# Stores that answer alike

* `Run.Agree`, `Run.Alike` : two runs that from related states come to related outcomes and leave
  related states. One lemma an operation says when;
* `Transaction.Alike`, `Store.Alike` : transactions and stores that do so operation by operation;
  `alike_resolveRoles`, `alike_buildRoleMap`, `alike_transact` : then so does what is built from
  them;
* `Store.Fixed` : a store that answers alike whatever state of a set it is in. One in memory does
  (`fixed_memoryStore`);
* `Faults.OnlyDelay`, `Store.Alike.withFaults` : a delayed store answers as it would without the
  delays.
-/

namespace Entitlement
namespace Run
variable {σ τ α β γ δ : Type} {R : σ → τ → Prop} {S : α → β → Prop}

inductive Agree (S : α → β → Prop) : Except Stop α → Except Stop β → Prop
  | ok {a : α} {b : β} (h : S a b) : Agree S (.ok a) (.ok b)
  | error (stop : Stop) : Agree S (.error stop) (.error stop)

def Alike (R : σ → τ → Prop) (S : α → β → Prop) (x : Run σ α) (y : Run τ β) : Prop :=
  ∀ w v, R w.state v.state →
    Agree S (x.run w).1 (y.run v).1 ∧ R (x.run w).2.state (y.run v).2.state

theorem agree_eq_iff {r r' : Except Stop α} : Agree Eq r r' ↔ r = r' := by
  constructor
  · rintro (h | stop)
    · rw [h]
    · rfl
  · rintro rfl
    cases r with
    | ok a => exact .ok rfl
    | error stop => exact .error stop

theorem Agree.mapError {r : Except Stop α} {r' : Except Stop β} (h : Agree S r r')
    (f : Stop → Stop) : Agree S (r.mapError f) (r'.mapError f) := by
  cases h with
  | ok h => exact .ok h
  | error stop => exact .error (f stop)

theorem alike_pure {a : α} {b : β} (h : S a b) : Alike R S (pure a) (pure b) :=
  fun _ _ hR => ⟨.ok h, hR⟩

theorem alike_throw (stop : Stop) : Alike R S (throw stop) (throw stop) :=
  fun _ _ hR => ⟨.error stop, hR⟩

theorem alike_ofResult (r : Except Error α) :
    Alike R Eq (ofResult r : Run σ α) (ofResult r : Run τ α) :=
  fun _ _ hR => ⟨agree_eq_iff.2 rfl, hR⟩

theorem alike_note (step : Step) : Alike R Eq (note step : Run σ Unit) (note step : Run τ Unit) :=
  fun _ _ hR => ⟨.ok rfl, hR⟩

theorem alike_log (entry : LogEntry) : Alike R Eq (log entry : Run σ Unit) (log entry : Run τ Unit) :=
  fun _ _ hR => ⟨.ok rfl, hR⟩

theorem alike_act {f : σ → Except Stop α × σ} {g : τ → Except Stop β × τ}
    (h : ∀ s t, R s t → Agree S (f s).1 (g t).1 ∧ R (f s).2 (g t).2) :
    Alike R S (act f) (act g) :=
  fun w v hR => h w.state v.state hR

variable {x : Run σ α} {y : Run τ β}

theorem Alike.context (h : Alike R S x y) (name : String) :
    Alike R S (context name x) (context name y) := by
  intro w v hR
  obtain ⟨hagree, hstate⟩ := h w v hR
  rw [run_context, run_context]
  exact ⟨hagree.mapError _, hstate⟩

theorem Alike.attempt (h : Alike R S x y) : Alike R (Agree S) (attempt x) (attempt y) := by
  intro w v hR
  obtain ⟨hagree, hstate⟩ := h w v hR
  exact ⟨.ok hagree, hstate⟩

theorem Alike.bind {T : γ → δ → Prop} {f : α → Run σ γ} {g : β → Run τ δ} (hx : Alike R S x y)
    (hf : ∀ a b, S a b → Alike R T (f a) (g b)) : Alike R T (x >>= f) (y >>= g) := by
  intro w v hR
  obtain ⟨hagree, hstate⟩ := hx w v hR
  rw [run_bind, run_bind]
  rcases hw : x.run w with ⟨r, w₁⟩
  rcases hv : y.run v with ⟨r', v₁⟩
  rw [hw, hv] at hagree hstate
  cases hagree with
  | ok hS => exact hf _ _ hS w₁ v₁ hstate
  | error stop => exact ⟨.error stop, hstate⟩

theorem Alike.ite {x' : Run σ α} {y' : Run τ β} (hx : Alike R S x y) (p : Prop) [Decidable p]
    (hx' : Alike R S x' y') : Alike R S (if p then x else x') (if p then y else y') := by
  split
  · exact hx
  · exact hx'

theorem alike_mapM {f : γ → Run σ α} {g : γ → Run τ α} (hf : ∀ c, Alike R Eq (f c) (g c))
    (l : List γ) : Alike R Eq (l.mapM f) (l.mapM g) := by
  induction l with
  | nil => exact alike_pure rfl
  | cons c l ih =>
    rw [List.mapM_cons, List.mapM_cons]
    refine (hf c).bind fun a b hab => ih.bind fun as bs habs => alike_pure ?_
    rw [hab, habs]

end Run

/-! ## Queries -/

namespace Query

/-- What is in a row, whichever roles are known. -/
def Value : Query → Type
  | tenantPermissions _ | rolePermissions .. => Permission
  | tenantRoles | userRoles _ | childRoles _ => Role
  | overrides .. => OverrideRow
  | resources .. => Resource

def values {known : List RoleId} : (q : Query) → List (q.Row known) → List q.Value
  | childRoles _, rows => rows.map Subtype.val
  | tenantPermissions _, rows | rolePermissions .., rows => rows
  | tenantRoles, rows | userRoles _, rows => rows
  | overrides .., rows => rows
  | resources .., rows => rows

def Same {known known' : List RoleId} (q : Query) (rows : List (q.Row known))
    (rows' : List (q.Row known')) : Prop := q.values rows = q.values rows'

end Query

open Run
variable {σ τ α : Type} {R : σ → τ → Prop}

namespace Transaction

structure Alike (R : σ → τ → Prop) (tx : Transaction σ) (tx' : Transaction τ) : Prop where
  ask : ∀ q s t, R s t →
    Agree q.Same (tx.ask q s).1 (tx'.ask q t).1 ∧ R (tx.ask q s).2 (tx'.ask q t).2
  commit : ∀ s t, R s t →
    Agree Eq (tx.commit s).1 (tx'.commit t).1 ∧ R (tx.commit s).2 (tx'.commit t).2
  rollback : ∀ s t, R s t →
    Agree Eq (tx.rollback s).1 (tx'.rollback t).1 ∧ R (tx.rollback s).2 (tx'.rollback t).2

variable {tx : Transaction σ} {tx' : Transaction τ}

theorem alike_query (h : tx.Alike R tx') (q : Query) :
    Run.Alike R q.Same (tx.query q) (tx'.query q) :=
  (alike_note _).bind fun _ _ _ => alike_act (h.ask q)

theorem alike_finish (h : tx.Alike R tx') {r r' : Except Stop α} (hr : r = r') :
    Run.Alike R Eq (tx.finish r) (tx'.finish r') := by
  subst hr
  match r with
  | .ok a =>
    exact (alike_note _).bind fun _ _ _ => (alike_act h.commit).bind fun _ _ _ => alike_pure rfl
  | .error (.crashed text) => exact alike_throw _
  | .error (.failed e) =>
    refine (alike_note _).bind fun _ _ _ => (alike_act h.rollback).attempt.bind fun back back' hb => ?_
    obtain rfl := agree_eq_iff.1 hb
    match back with
    | .ok _ => exact alike_throw _
    | .error (.crashed text) => exact alike_throw _
    | .error (.failed other) => exact (alike_log _).bind fun _ _ _ => alike_throw _

/-- The induction is the walk's own, from a level to the one below it. -/
theorem alike_expand (h : tx.Alike R tx') (frontier : List RoleId) (found : List Role)
    (depth : Nat) :
    Run.Alike R Eq (expand tx frontier found depth) (expand tx' frontier found depth) := by
  induction frontier, found, depth using expand.induct tx with
  | case1 frontier found depth ih =>
    rw [expand, expand]
    refine ((alike_query h _).context _).bind fun rows rows' hrows => ?_
    have hvalues : rows.map Subtype.val = rows'.map Subtype.val := hrows
    have hbelow := ih rows
    rw [hvalues] at hbelow
    rw [hvalues]
    by_cases hnil : fresh Role.id (Role.ids found) (rows'.map Subtype.val) = []
    · simp only [hnil, dif_pos]
      exact alike_pure rfl
    · simp only [hnil, dif_neg, not_false_eq_true]
      exact hbelow hnil

theorem alike_resolveRoles (h : tx.Alike R tx') (user : UserId) :
    Run.Alike R Eq (resolveRoles tx user) (resolveRoles tx' user) := by
  refine ((alike_query h _).context _).bind fun direct direct' hdirect => ?_
  have heq : (direct : List Role) = direct' := hdirect
  subst heq
  refine (alike_pure rfl).ite _ ((alike_expand h _ _ _).bind fun found found' hfound => ?_)
  subst hfound
  exact (alike_log _).bind fun _ _ _ => alike_pure rfl

theorem alike_queryNode (h : tx.Alike R tx') (f : Filter) (role : Role) :
    Run.Alike R Eq (queryNode tx f role) (queryNode tx' f role) := by
  refine ((alike_query h _).context _).bind fun permissions permissions' hpermissions => ?_
  have heq : (permissions : List Permission) = permissions' := hpermissions
  subst heq
  refine ((alike_query h _).context _).bind fun rows rows' hrows => alike_pure ?_
  have hvalues : rows.map Subtype.val = rows'.map Subtype.val := hrows
  rw [hvalues]

theorem alike_buildRoleMap (h : tx.Alike R tx') (f : Filter) :
    Run.Alike R Eq (buildRoleMap tx f) (buildRoleMap tx' f) := by
  refine ((alike_query h _).context _).bind fun roles roles' hroles => ?_
  have heq : (roles : List Role) = roles' := hroles
  subst heq
  refine (alike_mapM (alike_queryNode h f) _).bind fun nodes nodes' hnodes => ?_
  subst hnodes
  have hend : ∀ (g : RoleMap) (entry : LogEntry), Run.Alike R Eq
      (do log entry; return g : Run σ RoleMap) (do log entry; return g : Run τ RoleMap) :=
    fun g entry => (alike_log entry).bind fun _ _ _ => alike_pure rfl
  dsimp only
  split
  · exact (alike_log _).bind fun _ _ _ => hend _ _
  · exact hend _ _

end Transaction

/-! ## Stores -/

namespace Store
variable {store : Store σ} {store' : Store τ}

def Alike (R : σ → τ → Prop) (store : Store σ) (store' : Store τ) : Prop :=
  ∀ tenant s t, R s t → Agree (Transaction.Alike R) (store.begin tenant s).1 (store'.begin tenant t).1 ∧
    R (store.begin tenant s).2 (store'.begin tenant t).2

theorem alike_transact (h : store.Alike R store') (tenant : TenantId)
    {work : Transaction σ → Run σ α} {work' : Transaction τ → Run τ α}
    (hwork : ∀ tx tx', Transaction.Alike R tx tx' → Run.Alike R Eq (work tx) (work' tx')) :
    Run.Alike R Eq (store.transact tenant work) (store'.transact tenant work') := by
  have hstart : Run.Alike R (Transaction.Alike R) (store.start tenant) (store'.start tenant) :=
    (alike_act (h tenant)).bind fun tx tx' htx => (alike_note _).bind fun _ _ _ => alike_pure htx
  refine (hstart.context _).bind fun tx tx' htx => (hwork tx tx' htx).attempt.bind fun r r' hr => ?_
  exact Transaction.alike_finish htx (agree_eq_iff.1 hr)

/-- It answers alike in all states of a set, and does not leave the set. -/
def Fixed (P : σ → Prop) (store : Store σ) : Prop := store.Alike (fun s t => P s ∧ P t) store

end Store

/-! ## Data in memory -/

theorem alike_transaction (d : Dataset) : (d.transaction σ).Alike R (d.transaction τ) where
  ask _ _ _ hR := ⟨.ok rfl, hR⟩
  commit _ _ hR := ⟨.ok rfl, hR⟩
  rollback _ _ hR := ⟨.ok rfl, hR⟩

theorem fixed_memoryStore (m : Memory) : memoryStore.Fixed (· = m) := by
  rintro tenant s t ⟨hs, ht⟩
  refine ⟨?_, hs, ht⟩
  rw [hs, ht, begin_memoryStore]
  rcases m.snapshot? tenant with e | d
  · exact .error _
  · exact .ok (alike_transaction d)

/-! ## Delays -/

/-- No fault does more than make a step wait. -/
def Faults.OnlyDelay (faults : Faults) : Prop :=
  ∀ name fault, faults name = some fault → fault.outcome = .ok ()

namespace Faulty

theorem meet_of_onlyDelay {fault : Option Fault} (h : ∀ f, fault = some f → f.outcome = .ok ())
    (step : σ → Except Stop α × σ) (s : Faulty σ) :
    (meet fault step s).1 = (step s.inner).1 ∧ (meet fault step s).2.inner = (step s.inner).2 := by
  have hmet : fault.elim (.ok ()) (·.outcome) = .ok () := by
    cases fault with
    | none => rfl
    | some f => exact h f rfl
  unfold meet
  rw [hmet]
  exact ⟨rfl, rfl⟩

variable {faults : Faults} {β : Type} {S : α → β → Prop}

/-- Steps that agree go on to do so when one of them is delayed. -/
theorem alike_query (h : faults.OnlyDelay) (n : Nat) (name : String) {f : σ → Except Stop α × σ}
    {g : τ → Except Stop β × τ}
    (hfg : ∀ s t, R s t → Agree S (f s).1 (g t).1 ∧ R (f s).2 (g t).2) (s : Faulty σ) (t : τ)
    (hR : R s.inner t) :
    Agree S (query faults n name f s).1 (g t).1 ∧ R (query faults n name f s).2.inner (g t).2 := by
  have hmet : ∀ (k : Nat) (fault : Fault),
      ((faults name).filter fun f => f.skip ≤ k) = some fault → fault.outcome = .ok () :=
    fun k fault hf => h name fault (Option.filter_eq_some_iff.1 hf).1
  obtain ⟨hresult, hstate⟩ := meet_of_onlyDelay (hmet (s.taken.count (n, name))) f
    { s with taken := (n, name) :: s.taken }
  unfold query
  dsimp only
  rw [hresult, hstate]
  exact hfg s.inner t hR

theorem alike_transaction {tx : Transaction σ} {tx' : Transaction τ} (htx : tx.Alike R tx')
    (h : faults.OnlyDelay) (n : Nat) :
    (transaction faults n tx).Alike (fun s t => R s.inner t) tx' where
  ask q s t hR := alike_query h n q.name (htx.ask q) s t hR
  commit s t hR := alike_query h n "commit" htx.commit s t hR
  rollback s t hR := alike_query h n "rollback" htx.rollback s t hR

end Faulty

/-- **Delays change no answer.** -/
theorem Store.Alike.withFaults {store : Store σ} {store' : Store τ} {faults : Faults}
    (hstore : store.Alike R store') (h : faults.OnlyDelay) :
    (store.withFaults faults).Alike (fun s t => R s.inner t) store' := by
  intro tenant s t hR
  obtain ⟨hresult, hinner⟩ := Faulty.meet_of_onlyDelay (h "begin") (store.begin tenant)
    { s with begun := s.begun + 1 }
  obtain ⟨hagree, hstate⟩ := hstore tenant s.inner t hR
  unfold Store.withFaults
  dsimp only
  rw [hresult, hinner]
  refine ⟨?_, hstate⟩
  generalize (store.begin tenant s.inner).1 = r at hagree ⊢
  generalize (store'.begin tenant t).1 = r' at hagree ⊢
  cases hagree with
  | ok htx => exact .ok (Faulty.alike_transaction htx h _)
  | error stop => exact .error stop

end Entitlement
