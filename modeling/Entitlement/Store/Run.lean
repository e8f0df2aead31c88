import Entitlement.Store.Query

/-!
# Runs

* `Stop` : how a run ends early: with an error, or in a crash;
* `World` : the state of a store, the journal of a run, and the number of tasks so far;
* `Run` : a computation over the state of a store that keeps a journal;
* `Run.context` : with the operation's name around its error; `Run.attempt` : its outcome as a
  value.
-/

namespace Entitlement

inductive Stop where
  | failed (e : Error)
  | crashed (text : String)
  deriving DecidableEq, Repr

def Stop.context (name : String) : Stop → Stop
  | failed e => failed (e.context name)
  | crashed text => crashed text

structure World (σ : Type) where
  state : σ
  journal : Journal
  /-- How many tasks were started for requests. -/
  tasks : Nat

namespace World
variable {σ : Type}

def ofState (s : σ) : World σ := ⟨s, .empty, 0⟩

/-- With an empty journal. -/
def fresh (w : World σ) : World σ := { w with journal := .empty }

def stepped (w : World σ) (step : Step) : World σ :=
  { w with journal := { w.journal with steps := w.journal.steps ++ [step] } }

def logged (w : World σ) (entries : List LogEntry) : World σ :=
  { w with journal := { w.journal with log := w.journal.log ++ entries } }

end World

abbrev Run (σ : Type) := ExceptT Stop (StateM (World σ))

namespace Run
variable {σ α : Type}

def note (step : Step) : Run σ Unit := modify fun w => w.stepped step

def log (entry : LogEntry) : Run σ Unit := modify fun w => w.logged [entry]

/-- A step of the store on its own state. -/
def act (f : σ → Except Stop α × σ) : Run σ α :=
  ExceptT.mk fun w => ((f w.state).1, { w with state := (f w.state).2 })

def attempt (x : Run σ α) : Run σ (Except Stop α) :=
  ExceptT.mk fun w => (.ok (x.run w).1, (x.run w).2)

/-- A run from an outcome. -/
def ofOutcome (r : Except Stop α) : Run σ α := ExceptT.mk (pure r)

def ofResult (r : Except Error α) : Run σ α := ofOutcome (r.mapError .failed)

def context (name : String) (x : Run σ α) : Run σ α :=
  ExceptT.mk fun w => ((x.run w).1.mapError (Stop.context name), (x.run w).2)

end Run

end Entitlement
