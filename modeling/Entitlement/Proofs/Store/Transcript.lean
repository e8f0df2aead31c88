import Entitlement.Proofs.Store.Exchange

/-!
# What is asked in a transaction

* `Query.flaw?` : what is wrong with an answer: an override of a kind that is not known;
* `Transaction.Asks` : queries asked one after the other, up to the first that is not answered or
  whose answer is flawed; `Stop.root` : the cause of that;
* `Transaction.Heeds` : a run that does nothing in a transaction but ask, and fails exactly if one
  of its queries did; `Consults.heeds` : one that is told by its exchanges does, if no answer is
  flawed;
* `Transaction.closing`, `Transaction.Closes` : how a transaction ends after its queries, and what
  this makes of the work's outcome (`closes_finish`).
-/

namespace Entitlement
open Run
variable {σ α β : Type}

def Stop.root : Stop → Stop
  | failed e => failed e.root
  | crashed text => crashed text

@[simp] theorem Stop.root_context (name : String) (stop : Stop) :
    (stop.context name).root = stop.root := by
  cases stop <;> rfl

/-- The error of the first row of a kind that is not known. -/
def Overrides.flaw? (rows : List OverrideRow) : Option Error :=
  match partition rows with
  | .ok _ => .none
  | .error e => some e

def Query.flaw? {known : List RoleId} : (q : Query) → List (q.Row known) → Option Error
  | .overrides .., rows => Overrides.flaw? rows
  | _, _ => none

namespace Transaction

/-- From one state to another. The last query is the one that came to a stop, if there was a
stop. -/
inductive Asks (tx : Transaction σ) : σ → List Query → Option Stop → σ → Prop
  | done (s : σ) : Asks tx s [] none s
  | answered {s s₁ s₂ : σ} {q : Query} {rows : List (q.Row tx.known)} {qs : List Query}
      {fault : Option Stop} (hask : tx.ask q s = (.ok rows, s₁)) (hrows : q.flaw? rows = none)
      (hrest : Asks tx s₁ qs fault s₂) : Asks tx s (q :: qs) fault s₂
  | stopped {s s₁ : σ} {q : Query} {stop : Stop} (hask : tx.ask q s = (.error stop, s₁)) :
      Asks tx s [q] (some stop) s₁
  | flawed {s s₁ : σ} {q : Query} {rows : List (q.Row tx.known)} {e : Error}
      (hask : tx.ask q s = (.ok rows, s₁)) (hrows : q.flaw? rows = some e) :
      Asks tx s [q] (some (.failed e)) s₁

/-- An outcome of work that came to a stop, or did not. -/
def Reports (r : Except Stop α) : Option Stop → Prop
  | none => ∃ a, r = .ok a
  | some stop => ∃ stop', r = .error stop' ∧ stop'.root = stop.root

def Heeds (tx : Transaction σ) (x : Run σ α) : Prop :=
  ∀ w, ∃ qs fault, tx.Asks w.state qs fault (x.run w).2.state ∧
    (x.run w).2.journal.steps = w.journal.steps ++ qs.map .query ∧ Reports (x.run w).1 fault

variable {tx : Transaction σ} {x : Run σ α}

theorem Asks.append {s s₁ s₂ : σ} {qs qs' : List Query} {fault fault' : Option Stop}
    (h : tx.Asks s qs fault s₁) (hnone : fault = none) (h' : tx.Asks s₁ qs' fault' s₂) :
    tx.Asks s (qs ++ qs') fault' s₂ := by
  induction h with
  | done s => exact h'
  | answered hask hrows _ ih => exact .answered hask hrows (ih hnone h')
  | stopped _ => cases hnone
  | flawed _ _ => cases hnone

/-! ## Runs -/

theorem heeds_pure (a : α) : tx.Heeds (pure a) := by
  intro w
  exact ⟨[], none, .done _, (List.append_nil _).symm, a, rfl⟩

theorem Heeds.bind {f : α → Run σ β} (hx : tx.Heeds x) (hf : ∀ a, tx.Heeds (f a)) :
    tx.Heeds (x >>= f) := by
  intro w
  obtain ⟨qs, fault, hasks, hsteps, hreports⟩ := hx w
  rw [run_bind]
  rcases hrun : x.run w with ⟨r, w₁⟩
  rw [hrun] at hasks hsteps hreports
  cases fault with
  | none =>
    obtain ⟨a, ha⟩ := hreports
    obtain ⟨qs', fault', hasks', hsteps', hreports'⟩ := hf a w₁
    have hr : r = .ok a := ha
    subst hr
    refine ⟨qs ++ qs', fault', hasks.append rfl hasks', ?_, hreports'⟩
    rw [hsteps', hsteps, List.map_append, List.append_assoc]
  | some stop =>
    obtain ⟨stop', hstop, hroot⟩ := hreports
    have hr : r = .error stop' := hstop
    subst hr
    exact ⟨qs, some stop, hasks, hsteps, stop', rfl, hroot⟩

theorem Heeds.ite {y : Run σ α} (hx : tx.Heeds x) (p : Prop) [Decidable p] (hy : tx.Heeds y) :
    tx.Heeds (if p then x else y) := by
  split
  · exact hx
  · exact hy

/-- A query whose rows cannot be flawed. -/
theorem heeds_query {q : Query} (hq : ∀ rows : List (q.Row tx.known), q.flaw? rows = none) :
    tx.Heeds (tx.query q) := by
  intro w
  rw [run_query]
  rcases hask : tx.ask q w.state with ⟨stop | rows, s⟩
  · exact ⟨[q], some stop, .stopped hask, rfl, stop, rfl, rfl⟩
  · exact ⟨[q], none, .answered hask (hq rows) (.done s), rfl, rows, rfl⟩

/-- The overrides of a user are asked for, and then told apart by their kinds. -/
theorem heeds_overrides (user : UserId) (f : Filter) :
    tx.Heeds (tx.query (.overrides user f) >>= fun rows => ofResult (Overrides.partition rows)) := by
  intro w
  rw [run_bind, run_query]
  rcases hask : tx.ask (.overrides user f) w.state with ⟨stop | rows, s⟩
  · exact ⟨_, some stop, .stopped hask, rfl, stop, rfl, rfl⟩
  · have hflaw : (Query.overrides user f).flaw? rows = Overrides.flaw? rows := rfl
    unfold Overrides.flaw? at hflaw
    change ∃ qs fault, _ ∧ _ ∧ Reports ((Overrides.partition rows).mapError Stop.failed) fault
    rcases hparts : Overrides.partition rows with e | o
    · rw [hparts] at hflaw
      exact ⟨_, some (.failed e), .flawed hask hflaw, rfl, .failed e, rfl, rfl⟩
    · rw [hparts] at hflaw
      exact ⟨_, none, .answered hask hflaw (.done s), rfl, o, rfl⟩

theorem Hears.asks {s s₁ s₂ : σ} {xs : List (Exchange tx.known)} {qs : List Query}
    {fault : Option Stop} (h : tx.Hears s xs s₁) (hxs : ∀ e ∈ xs, e.query.flaw? e.rows = none)
    (h' : tx.Asks s₁ qs fault s₂) : tx.Asks s (xs.map (·.query) ++ qs) fault s₂ := by
  induction h with
  | nil s => exact h'
  | cons hask _ ih =>
    obtain ⟨hx, hxs⟩ := List.forall_mem_cons.1 hxs
    exact .answered hask hx (ih hxs h')

/-- A run that is told by its exchanges, of which none is flawed. -/
theorem Consults.heeds {good : List (Exchange tx.known) → α → Prop}
    {bad : List (Exchange tx.known) → Query → Stop → Stop → Prop} (h : tx.Consults x good bad)
    (hgood : ∀ xs a, good xs a → ∀ e ∈ xs, e.query.flaw? e.rows = none)
    (hbad : ∀ xs q stop stop', bad xs q stop stop' →
      stop'.root = stop.root ∧ ∀ e ∈ xs, e.query.flaw? e.rows = none) : tx.Heeds x := by
  intro w
  rcases h w with ⟨xs, a, hobtains, h⟩ | ⟨xs, q, stop, stop', hstop, hhalts, h⟩
  · refine ⟨xs.map (·.query) ++ [], none, hobtains.hears.asks (hgood xs a h) (.done _), ?_, a,
      hobtains.value⟩
    rw [hobtains.steps, List.append_nil, List.map_map]
    rfl
  · obtain ⟨hroot, hxs⟩ := hbad xs q stop stop' h
    obtain ⟨s, hhears, hask⟩ := hhalts.hears
    refine ⟨xs.map (·.query) ++ [q], some stop, hhears.asks hxs (.stopped hask), ?_, stop', hstop,
      hroot⟩
    rw [hhalts.steps, List.map_append, List.map_map, List.append_assoc]
    rfl

/-! ## The end of a transaction -/

/-- After a crash nothing more is done. -/
def closing : Option Stop → List Step
  | none => [.commit]
  | some (.failed _) => [.rollback]
  | some (.crashed _) => []

/-- How a call of a name ends, after queries that left the store in a state: with what outcome, and
what the store is left in. -/
def Closes (tx : Transaction σ) (name : String) (s : σ) (r : Except Stop α) (s' : σ) :
    Option Stop → Prop
  | none => s' = (tx.commit s).2 ∧
    match (tx.commit s).1 with
    | .ok () => ∃ a, r = .ok a
    | .error stop => r = .error (stop.context name)
  | some (.failed e) => s' = (tx.rollback s).2 ∧
    match (tx.rollback s).1 with
    | .error (.crashed text) => r = .error (.crashed text)
    | _ => ∃ cause, r = .error (.failed (.operation name cause)) ∧ cause.root = e.root
  | some (.crashed text) => s' = s ∧ r = .error (.crashed text)

/-- A call succeeds exactly where nothing went wrong, the commit included. -/
theorem Closes.ok_iff {name : String} {s s' : σ} {r : Except Stop α} {fault : Option Stop}
    (h : tx.Closes name s r s' fault) :
    (∃ a, r = .ok a) ↔ fault = none ∧ (tx.commit s).1 = .ok () := by
  match fault, h with
  | none, ⟨_, h⟩ =>
    rcases hcommit : (tx.commit s).1 with stop | u
    · rw [hcommit] at h
      have hr : r = .error (stop.context name) := h
      simp [hr]
    · rw [hcommit] at h
      have hr : ∃ a, r = .ok a := h
      simp [hr]
  | some (.crashed text), ⟨_, hr⟩ => simp [hr]
  | some (.failed e), ⟨_, h⟩ =>
    rcases hback : (tx.rollback s).1 with (other | text) | u
    · rw [hback] at h
      obtain ⟨cause, hr, -⟩ := h
      simp [hr]
    · rw [hback] at h
      have hr : r = .error (.crashed text) := h
      simp [hr]
    · rw [hback] at h
      obtain ⟨cause, hr, -⟩ := h
      simp [hr]

theorem run_finish_ok (tx : Transaction σ) (a : α) (w : World σ) :
    (tx.finish (.ok a)).run w = ((tx.commit w.state).1.map fun _ => a,
      { w.stepped .commit with state := (tx.commit w.state).2 }) := by
  have hcommit : (act tx.commit).run (w.stepped .commit) = ((tx.commit w.state).1,
      { w.stepped .commit with state := (tx.commit w.state).2 }) := rfl
  unfold finish
  rw [run_bind, run_note]
  dsimp only
  rw [run_bind, hcommit]
  rcases (tx.commit w.state).1 with stop | u
  · rfl
  · rfl

/-- Whatever the rollback comes to short of a crash, the error is the one of the work. -/
theorem run_finish_failed (tx : Transaction σ) (e : Error) (w : World σ) :
    ∃ w', (tx.finish (.error (.failed e)) : Run σ α).run w =
        (match (tx.rollback w.state).1 with
          | .error (.crashed text) => .error (.crashed text)
          | _ => .error (.failed e), w') ∧
      w'.state = (tx.rollback w.state).2 ∧
      w'.journal.steps = w.journal.steps ++ [.rollback] := by
  have hback : (attempt (act tx.rollback)).run (w.stepped .rollback) =
      (.ok (tx.rollback w.state).1,
        { w.stepped .rollback with state := (tx.rollback w.state).2 }) := rfl
  unfold finish
  rw [run_bind, run_note]
  dsimp only
  rw [run_bind, hback]
  rcases hr : (tx.rollback w.state).1 with (other | text) | u
  · exact ⟨_, rfl, rfl, rfl⟩
  · exact ⟨_, rfl, rfl, rfl⟩
  · exact ⟨_, rfl, rfl, rfl⟩

theorem closes_finish (tx : Transaction σ) {r : Except Stop α} {fault : Option Stop} (hr : Reports r fault)
    (name : String) (w : World σ) :
    ((context name (tx.finish r)).run w).2.journal.steps = w.journal.steps ++ closing fault ∧
      tx.Closes name w.state ((context name (tx.finish r)).run w).1
        ((context name (tx.finish r)).run w).2.state fault := by
  rw [run_context]
  match fault, hr with
  | none, ⟨a, ha⟩ =>
    subst ha
    rw [run_finish_ok]
    refine ⟨rfl, rfl, ?_⟩
    rcases (tx.commit w.state).1 with stop | u
    · rfl
    · exact ⟨a, rfl⟩
  | some (.crashed text), ⟨.crashed text', hstop, hroot⟩ =>
    subst hstop
    have htext : text' = text := Stop.crashed.inj hroot
    subst htext
    exact ⟨(List.append_nil _).symm, rfl, rfl⟩
  | some (.failed e), ⟨.failed e', hstop, hroot⟩ =>
    subst hstop
    obtain ⟨w', hrun, hstate, hsteps⟩ := run_finish_failed (α := α) tx e' w
    have he : e'.root = e.root := Stop.failed.inj hroot
    rw [hrun]
    refine ⟨hsteps, hstate, ?_⟩
    rcases (tx.rollback w.state).1 with (other | text) | u
    · exact ⟨e', rfl, he⟩
    · rfl
    · exact ⟨e', rfl, he⟩

end Transaction

namespace Store
variable {store : Store σ} {tenant : TenantId} {work : Transaction σ → Run σ α} {tx : Transaction σ}
  {w : World σ} {s : σ} {stop : Stop}

theorem run_start_refused (h : store.begin tenant w.state = (.error stop, s)) :
    (store.start tenant).run w = (.error stop, { w with state := s }) := by
  have hbegin : (act (store.begin tenant)).run w = (.error stop, { w with state := s }) := by
    rw [run_act, h]
  unfold start
  rw [run_bind, hbegin]

theorem run_start (h : store.begin tenant w.state = (.ok tx, s)) :
    (store.start tenant).run w = (.ok tx, { w with state := s }.stepped (.begin tenant)) := by
  have hbegin : (act (store.begin tenant)).run w = (.ok tx, { w with state := s }) := by
    rw [run_act, h]
  unfold start
  rw [run_bind, hbegin]
  rfl

/-- Without a transaction nothing is done. -/
theorem run_transact_refused (h : store.begin tenant w.state = (.error stop, s)) :
    (store.transact tenant work).run w =
      (.error (stop.context "get tenant connection"), { w with state := s }) := by
  unfold transact
  rw [run_bind, run_context, run_start_refused h]
  rfl

theorem run_transact (h : store.begin tenant w.state = (.ok tx, s)) :
    (store.transact tenant work).run w =
      (tx.finish ((work tx).run ({ w with state := s }.stepped (.begin tenant))).1).run
        ((work tx).run ({ w with state := s }.stepped (.begin tenant))).2 := by
  unfold transact
  rw [run_bind, run_context, run_start h]
  rfl

/-- A call of a name whose work does nothing in its transaction but ask. -/
theorem closes_transact (work : Transaction σ → Run σ α)
    (hbegin : store.begin tenant w.state = (.ok tx, s)) (hwork : tx.Heeds (work tx))
    (name : String) :
    ∃ qs fault s₂, tx.Asks s qs fault s₂ ∧
      ((context name (store.transact tenant work)).run w).2.journal.steps =
        w.journal.steps ++ .begin tenant :: qs.map .query ++ Transaction.closing fault ∧
      tx.Closes name s₂ ((context name (store.transact tenant work)).run w).1
        ((context name (store.transact tenant work)).run w).2.state fault := by
  obtain ⟨w₁, hw₁⟩ : ∃ w₁ : World σ, w₁ = { w with state := s }.stepped (.begin tenant) := ⟨_, rfl⟩
  have hrun : (context name (store.transact tenant work)).run w =
      (context name (tx.finish ((work tx).run w₁).1)).run ((work tx).run w₁).2 := by
    rw [run_context, run_transact hbegin, ← run_context, hw₁]
  have hstate : w₁.state = s := by rw [hw₁]; rfl
  have hbefore : w₁.journal.steps = w.journal.steps ++ [.begin tenant] := by rw [hw₁]; rfl
  obtain ⟨qs, fault, hasks, hsteps, hreports⟩ := hwork w₁
  obtain ⟨hclosing, hcloses⟩ :=
    Transaction.closes_finish tx hreports name ((work tx).run w₁).2
  rw [hrun]
  refine ⟨qs, fault, _, hstate ▸ hasks, ?_, hcloses⟩
  rw [hclosing, hsteps, hbefore]
  simp

end Store

end Entitlement
