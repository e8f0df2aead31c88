import Entitlement.Store.Memory

/-!
# What a run yields

* `Run.Yields` : a run comes to a value, in a world; at most one (`Yields.unique`). One lemma an
  operation says when: `yields_bind`, `yields_log`, `yields_context`, ...;
* `yields_query`, `yields_transact` : queries and whole transactions on a tenant's data in memory,
  which answer from the data and nothing else.
-/

namespace Entitlement

namespace Run
variable {σ α β : Type} {w w' : World σ}

def Yields (x : Run σ α) (w : World σ) (a : α) (w' : World σ) : Prop := x.run w = (.ok a, w')

theorem Yields.unique {x : Run σ α} {a b : α} {w₁ w₂ : World σ} (h₁ : x.Yields w a w₁)
    (h₂ : x.Yields w b w₂) : a = b ∧ w₁ = w₂ := by
  have h := Eq.trans (Eq.symm h₁) h₂
  rw [Prod.mk.injEq, Except.ok.injEq] at h
  exact h

theorem yields_pure {a b : α} : (pure a : Run σ α).Yields w b w' ↔ b = a ∧ w' = w := by
  constructor
  · intro h
    cases h
    exact ⟨rfl, rfl⟩
  · rintro ⟨rfl, rfl⟩
    rfl

/-- The second run goes on in the world where the first one stopped, if it succeeded. -/
theorem run_bind (x : Run σ α) (f : α → Run σ β) (w : World σ) :
    (x >>= f).run w = match x.run w with
      | (.ok a, w₁) => (f a).run w₁
      | (.error stop, w₁) => (.error stop, w₁) := by
  change (match x.run w with | (r, w₁) => ExceptT.bindCont f r w₁) = _
  cases x.run w with
  | mk r w₁ => cases r <;> rfl

theorem run_note (step : Step) (w : World σ) :
    (note step : Run σ Unit).run w = (.ok (), w.stepped step) := rfl

theorem run_act (f : σ → Except Stop α × σ) (w : World σ) :
    (act f).run w = ((f w.state).1, { w with state := (f w.state).2 }) := rfl

theorem run_context (name : String) (x : Run σ α) (w : World σ) :
    (context name x).run w = ((x.run w).1.mapError (Stop.context name), (x.run w).2) := rfl

theorem yields_bind {x : Run σ α} {f : α → Run σ β} {b : β} :
    (x >>= f).Yields w b w' ↔ ∃ a w₁, x.Yields w a w₁ ∧ (f a).Yields w₁ b w' := by
  unfold Yields
  rw [run_bind]
  constructor
  · intro h
    cases hx : x.run w with
    | mk r w₁ =>
      rw [hx] at h
      cases r with
      | error stop => cases h
      | ok a => exact ⟨a, w₁, rfl, h⟩
  · rintro ⟨a, w₁, hx, h⟩
    rw [hx]
    exact h

theorem Yields.bind {x : Run σ α} {f : α → Run σ β} {a : α} {b : β} {w₁ : World σ}
    (hx : x.Yields w a w₁) (hf : (f a).Yields w₁ b w') : (x >>= f).Yields w b w' :=
  yields_bind.2 ⟨a, w₁, hx, hf⟩

theorem Yields.exists_bind {x : Run σ α} {f : α → Run σ β} {a : α} {b : β} {w₁ : World σ}
    (hx : x.Yields w a w₁) (hf : ∃ w₂, (f a).Yields w₁ b w₂) : ∃ w₂, (x >>= f).Yields w b w₂ :=
  hf.imp fun _ h => hx.bind h

theorem yields_note {step : Step} {u : Unit} :
    (note step : Run σ Unit).Yields w u w' ↔ w' = w.stepped step :=
  ⟨fun h => by cases h; rfl, fun h => h ▸ rfl⟩

theorem yields_log {entry : LogEntry} {u : Unit} :
    (log entry : Run σ Unit).Yields w u w' ↔ w' = w.logged [entry] :=
  ⟨fun h => by cases h; rfl, fun h => h ▸ rfl⟩

theorem yields_act {f : σ → Except Stop α × σ} {a : α} :
    (act f).Yields w a w' ↔ (f w.state).1 = .ok a ∧ w' = { w with state := (f w.state).2 } := by
  constructor
  · intro h
    exact ⟨congrArg Prod.fst h, (congrArg Prod.snd h).symm⟩
  · rintro ⟨h, rfl⟩
    exact congrArg (·, _) h

theorem yields_ofResult {r : Except Error α} {a : α} :
    (ofResult r : Run σ α).Yields w a w' ↔ r = .ok a ∧ w' = w := by
  constructor
  · intro h
    cases r with
    | error e => cases h
    | ok b => cases h; exact ⟨rfl, rfl⟩
  · rintro ⟨rfl, rfl⟩
    rfl

/-- A name around the error leaves the value alone. -/
theorem yields_context {name : String} {x : Run σ α} {a : α} :
    (context name x).Yields w a w' ↔ x.Yields w a w' := by
  unfold Yields
  change ((x.run w).1.mapError (Stop.context name), (x.run w).2) = _ ↔ _
  rcases x.run w with ⟨stop | b, w₁⟩
  · constructor <;> (intro h; cases h)
  · exact .rfl

theorem yields_attempt {x : Run σ α} {r : Except Stop α} :
    (attempt x).Yields w r w' ↔ x.run w = (r, w') := by
  constructor
  · intro h
    cases h
    rfl
  · intro h
    change (Except.ok (x.run w).1, (x.run w).2) = _
    rw [h]

theorem not_yields_throw {stop : Stop} {a : α} : ¬ (throw stop : Run σ α).Yields w a w' := by
  intro h
  cases h

/-- A run over the items of a list that yields `g` of each yields the list of them. -/
theorem exists_yields_mapM {f : α → Run σ β} {g : α → β}
    (hf : ∀ a w, ∃ w', (f a).Yields w (g a) w') (l : List α) (w : World σ) :
    ∃ w', (l.mapM f).Yields w (l.map g) w' := by
  induction l generalizing w with
  | nil => exact ⟨w, yields_pure.2 ⟨rfl, rfl⟩⟩
  | cons a l ih =>
    obtain ⟨w₁, h₁⟩ := hf a w
    obtain ⟨w₂, h₂⟩ := ih w₁
    rw [List.mapM_cons]
    exact ⟨w₂, h₁.bind (h₂.bind (yields_pure.2 ⟨rfl, rfl⟩))⟩

end Run

open Run
variable {σ α : Type}

theorem Transaction.run_query (tx : Transaction σ) (q : Query) (w : World σ) :
    (tx.query q).run w = ((tx.ask q w.state).1,
      { w.stepped (.query q) with state := (tx.ask q w.state).2 }) := rfl

/-- Work that failed stays failed; work that succeeded is worth its value once it is committed. -/
theorem Transaction.yields_finish {tx : Transaction σ} {r : Except Stop α} {a : α} {w w' : World σ} :
    (tx.finish r).Yields w a w' ↔ r = .ok a ∧ (tx.commit w.state).1 = .ok () ∧
      w' = { w.stepped .commit with state := (tx.commit w.state).2 } := by
  constructor
  · intro h
    match r with
    | .ok b =>
      obtain ⟨_, w₁, hnote, h⟩ := yields_bind.1 h
      obtain rfl := yields_note.1 hnote
      obtain ⟨_, w₂, hcommit, h⟩ := yields_bind.1 h
      obtain ⟨hok, rfl⟩ := yields_act.1 hcommit
      obtain ⟨rfl, rfl⟩ := yields_pure.1 h
      exact ⟨rfl, hok, rfl⟩
    | .error (.crashed text) => exact absurd h not_yields_throw
    | .error (.failed e) =>
      obtain ⟨_, w₁, -, h⟩ := yields_bind.1 h
      obtain ⟨back, w₂, -, h⟩ := yields_bind.1 h
      match back with
      | .ok _ => exact absurd h not_yields_throw
      | .error (.crashed text) => exact absurd h not_yields_throw
      | .error (.failed other) =>
        obtain ⟨_, w₃, -, h⟩ := yields_bind.1 h
        exact absurd h not_yields_throw
  · rintro ⟨rfl, hok, rfl⟩
    exact Yields.bind (a := ()) (yields_note.2 rfl)
      (Yields.bind (a := ()) (yields_act.2 ⟨hok, rfl⟩) (yields_pure.2 ⟨rfl, rfl⟩))

/-! ## Data in memory -/

theorem yields_query (d : Dataset) (q : Query) (w : World σ) :
    ((d.transaction σ).query q).Yields w (d.answer q) (w.stepped (.query q)) :=
  Yields.bind (a := ()) (yields_note.2 rfl) (yields_act.2 ⟨rfl, rfl⟩)

theorem begin_memoryStore (tenant : TenantId) (m : Memory) : memoryStore.begin tenant m =
    (((m.snapshot? tenant).mapError .failed).map (·.transaction Memory), m) := rfl

theorem begin_of_snapshot {tenant : TenantId} {m : Memory} {d : Dataset}
    (h : m.snapshot? tenant = .ok d) :
    memoryStore.begin tenant m = (.ok (d.transaction Memory), m) := by
  rw [begin_memoryStore, h]
  rfl

theorem begin_of_snapshot_error {tenant : TenantId} {m : Memory} {e : Error}
    (h : m.snapshot? tenant = .error e) :
    memoryStore.begin tenant m = (.error (.failed e), m) := by
  rw [begin_memoryStore, h]
  rfl

/-- A transaction succeeds exactly where its work on the tenant's data does. -/
theorem yields_transact {tenant : TenantId} {work : Transaction Memory → Run Memory α}
    {w w' : World Memory} {a : α} :
    (memoryStore.transact tenant work).Yields w a w' ↔
      ∃ d w₂, w.state.snapshot? tenant = .ok d ∧
        (work (d.transaction Memory)).Yields (w.stepped (.begin tenant)) a w₂ ∧
        w' = w₂.stepped .commit := by
  unfold Store.transact Store.start
  simp only [yields_bind, yields_context, yields_act, yields_note, yields_pure, yields_attempt,
    Transaction.yields_finish]
  constructor
  · rintro ⟨tx, w₁, ⟨tx', w₀, ⟨hbegin, rfl⟩, _, w₁', rfl, rfl, rfl⟩, r, w₂, hwork, rfl, -, rfl⟩
    cases hd : w.state.snapshot? tenant with
    | error e =>
      rw [begin_of_snapshot_error hd] at hbegin
      cases hbegin
    | ok d =>
      rw [begin_of_snapshot hd] at hbegin
      cases hbegin
      exact ⟨d, w₂, rfl, hwork, rfl⟩
  · rintro ⟨d, w₂, hd, hwork, rfl⟩
    refine ⟨d.transaction Memory, w.stepped (.begin tenant),
      ⟨d.transaction Memory, w, ⟨?_, rfl⟩, (), _, rfl, rfl, rfl⟩, .ok a, w₂, hwork, rfl, rfl, rfl⟩
    rw [begin_of_snapshot hd]

end Entitlement
