import Entitlement.Proofs.Run

/-!
# Queries with their answers

* `Exchange` : a query and the rows that it was answered with; `Transaction.Hears` : exchanges one
  after the other;
* `Transaction.Obtains`, `Transaction.HaltsAt` : a run that did nothing in a transaction but ask,
  and came to a value, or came to a stop at a query that was not answered;
* `Transaction.Consults` : each run ends in one of these ways. One lemma an operation.
-/

namespace Entitlement
open Run
variable {σ α β : Type}

structure Exchange (known : List RoleId) where
  query : Query
  rows : List (query.Row known)

namespace Transaction

/-- From one state to another. -/
inductive Hears (tx : Transaction σ) : σ → List (Exchange tx.known) → σ → Prop
  | nil (s : σ) : Hears tx s [] s
  | cons {s s₁ s₂ : σ} {x : Exchange tx.known} {xs : List (Exchange tx.known)}
      (hask : tx.ask x.query s = (.ok x.rows, s₁)) (hrest : Hears tx s₁ xs s₂) :
      Hears tx s (x :: xs) s₂

variable (tx : Transaction σ)

/-- A run from one world came to a value after some exchanges. -/
structure Obtains (w : World σ) (xs : List (Exchange tx.known)) (r : Except Stop α × World σ)
    (a : α) : Prop where
  value : r.1 = .ok a
  hears : tx.Hears w.state xs r.2.state
  steps : r.2.journal.steps = w.journal.steps ++ xs.map fun x => .query x.query

/-- A run from one world came to a stop at a query, after some exchanges. -/
structure HaltsAt (w : World σ) (xs : List (Exchange tx.known)) (q : Query) (stop : Stop)
    (r : Except Stop α × World σ) : Prop where
  hears : ∃ s, tx.Hears w.state xs s ∧ tx.ask q s = (.error stop, r.2.state)
  steps : r.2.journal.steps = w.journal.steps ++ (xs.map fun x => .query x.query) ++ [.query q]

/-- A run that does nothing in a transaction but ask, whether it ends well or not. -/
def Consults (x : Run σ α) (good : List (Exchange tx.known) → α → Prop)
    (bad : List (Exchange tx.known) → Query → Stop → Stop → Prop) : Prop :=
  ∀ w, (∃ xs a, tx.Obtains w xs (x.run w) a ∧ good xs a) ∨
    ∃ xs q stop stop', (x.run w).1 = .error stop' ∧ tx.HaltsAt w xs q stop (x.run w) ∧
      bad xs q stop stop'

variable {tx} {x : Run σ α} {good : List (Exchange tx.known) → α → Prop}
  {bad : List (Exchange tx.known) → Query → Stop → Stop → Prop}

theorem Hears.append {s s₁ s₂ : σ} {xs ys : List (Exchange tx.known)} (h : tx.Hears s xs s₁)
    (h' : tx.Hears s₁ ys s₂) : tx.Hears s (xs ++ ys) s₂ := by
  induction h with
  | nil s => exact h'
  | cons hask _ ih => exact .cons hask (ih h')

theorem consults_pure {a : α} (h : good [] a) : tx.Consults (pure a) good bad := by
  intro w
  exact .inl ⟨[], a, ⟨rfl, .nil _, (List.append_nil _).symm⟩, h⟩

theorem consults_log (entry : LogEntry) :
    tx.Consults (log entry) (fun xs _ => xs = []) bad := by
  intro w
  exact .inl ⟨[], (), ⟨rfl, .nil _, (List.append_nil _).symm⟩, rfl⟩

/-- One query, with a name around its error. -/
theorem consults_query {q : Query} {name : String}
    {good : List (Exchange tx.known) → List (q.Row tx.known) → Prop}
    (hgood : ∀ rows, good [⟨q, rows⟩] rows) (hbad : ∀ stop, bad [] q stop (stop.context name)) :
    tx.Consults (context name (tx.query q)) good bad := by
  intro w
  rw [run_context, run_query]
  rcases hask : tx.ask q w.state with ⟨stop | rows, s⟩
  · exact .inr ⟨[], q, stop, _, rfl, ⟨⟨_, .nil _, hask⟩, by simp [World.stepped]⟩, hbad stop⟩
  · exact .inl ⟨[⟨q, rows⟩], rows, ⟨rfl, .cons hask (.nil s), rfl⟩, hgood rows⟩

/-- What follows a run is told from the exchanges before it on. -/
theorem Consults.bind {f : α → Run σ β} {good' : List (Exchange tx.known) → β → Prop}
    (hx : tx.Consults x good bad)
    (hf : ∀ xs a, good xs a →
      tx.Consults (f a) (fun ys => good' (xs ++ ys)) fun ys => bad (xs ++ ys)) :
    tx.Consults (x >>= f) good' bad := by
  intro w
  rw [run_bind]
  rcases hx w with ⟨xs, a, hobtains, hgood⟩ | ⟨xs, q, stop, stop', hstop, hhalts, hbad⟩
  · rcases hrun : x.run w with ⟨r, w₁⟩
    rw [hrun] at hobtains
    obtain ⟨rfl, hhears, hsteps⟩ := hobtains
    rcases hf xs a hgood w₁ with
      ⟨ys, b, hobtains', hgood'⟩ | ⟨ys, q, stop, stop', hstop, hhalts, hbad⟩
    · refine .inl ⟨xs ++ ys, b, ⟨hobtains'.value, hhears.append hobtains'.hears, ?_⟩, hgood'⟩
      rw [hobtains'.steps, hsteps, List.map_append, List.append_assoc]
    · obtain ⟨s, hhears', hask⟩ := hhalts.hears
      refine .inr ⟨xs ++ ys, q, stop, stop', hstop, ⟨⟨s, hhears.append hhears', hask⟩, ?_⟩, hbad⟩
      rw [hhalts.steps, hsteps]
      simp only [List.map_append, List.append_assoc]
  · rcases hrun : x.run w with ⟨r, w₁⟩
    rw [hrun] at hstop hhalts
    have hr : r = .error stop' := hstop
    subst hr
    exact .inr ⟨xs, q, stop, stop', rfl, ⟨hhalts.hears, hhalts.steps⟩, hbad⟩

theorem Consults.mono {good' : List (Exchange tx.known) → α → Prop}
    {bad' : List (Exchange tx.known) → Query → Stop → Stop → Prop} (h : tx.Consults x good bad)
    (hgood : ∀ xs a, good xs a → good' xs a)
    (hbad : ∀ xs q stop stop', bad xs q stop stop' → bad' xs q stop stop') :
    tx.Consults x good' bad' := by
  intro w
  rcases h w with ⟨xs, a, hobtains, h⟩ | ⟨xs, q, stop, stop', hstop, hhalts, h⟩
  · exact .inl ⟨xs, a, hobtains, hgood _ _ h⟩
  · exact .inr ⟨xs, q, stop, stop', hstop, hhalts, hbad _ _ _ _ h⟩

end Transaction

end Entitlement
