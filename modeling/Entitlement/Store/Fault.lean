import Entitlement.Store.Transaction

/-!
# Faults

* `Fault` : what happens before a step: a wait, then a crash or an error;
* `Faulty` : the state of a store with faults: its own, the time waited, and how often each step of
  each transaction was taken;
* `Store.withFaults` : a store whose steps meet the faults of their names.
-/

namespace Entitlement

structure Fault where
  delay : Span
  fail : Option Error
  crash : Bool
  /-- How many steps of one transaction pass before the fault is met. -/
  skip : Nat

structure Faulty (σ : Type) where
  inner : σ
  waited : Span
  /-- How many transactions were asked for. -/
  begun : Nat
  /-- The queries taken so far, by transaction and name. -/
  taken : List (Nat × String)

abbrev Faults := String → Option Fault

namespace Fault

/-- What a fault does to a step, after its wait. -/
def outcome (f : Fault) : Except Stop Unit :=
  if f.crash then .error (.crashed "injected")
  else match f.fail with
    | some e => .error (.failed e)
    | none => .ok ()

end Fault

namespace Faulty
variable {σ α : Type}

def ofState (s : σ) : Faulty σ := ⟨s, ⟨0⟩, 0, []⟩

/-- Meets a fault, if there is one, and then takes the step. -/
def meet (fault : Option Fault) (step : σ → Except Stop α × σ) (s : Faulty σ) :
    Except Stop α × Faulty σ :=
  let waited := s.waited + fault.elim ⟨0⟩ (·.delay)
  match fault.elim (.ok ()) (·.outcome) with
  | .ok () => ((step s.inner).1, { s with inner := (step s.inner).2, waited })
  | .error stop => (.error stop, { s with waited })

/-- Counts a query, and meets its fault unless it is skipped. -/
def query (faults : Faults) (n : Nat) (name : String) (step : σ → Except Stop α × σ)
    (s : Faulty σ) : Except Stop α × Faulty σ :=
  let met := (faults name).filter fun f => f.skip ≤ s.taken.count (n, name)
  meet met step { s with taken := (n, name) :: s.taken }

def transaction (faults : Faults) (n : Nat) (tx : Transaction σ) : Transaction (Faulty σ) where
  known := tx.known
  ask q := query faults n q.name (tx.ask q)
  commit := query faults n "commit" tx.commit
  rollback := query faults n "rollback" tx.rollback

end Faulty

def Store.withFaults (store : Store σ) (faults : Faults) : Store (Faulty σ) where
  begin tenant s :=
    let r := Faulty.meet (faults "begin") (store.begin tenant) { s with begun := s.begun + 1 }
    (r.1.map (Faulty.transaction faults s.begun), r.2)
  waited s := s.waited + store.waited s.inner

end Entitlement
