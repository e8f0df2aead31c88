import Entitlement.Error
import Entitlement.Table

/-!
# Gates

* `Lock` : held by one call at most; calls that come meanwhile wait in line, and who leaves hands it
  to the first of them;
* `Gate` : a lock and the calls at it, each still waiting or at work;
* `Gate.enter`, `Gate.start`, `Gate.leave` : a call arrives, begins its work, is gone;
* `Gate.mayStart` : a waiting call has been handed the lock; `Gate.works` : a call is at work;
* `Progress` : how far an event brings the call that it is about.
-/

namespace Entitlement

/-- Tells calls apart. -/
abbrev CallId := Nat

structure Lock where
  holder : Option CallId
  waiting : List CallId

namespace Lock

def free : Lock := ⟨none, []⟩

/-- Takes a free lock, or a place at the end of the line. -/
def enter (l : Lock) (id : CallId) : Lock :=
  match l.holder with
  | none => { l with holder := some id }
  | some _ => { l with waiting := l.waiting ++ [id] }

/-- The lock goes to the first in line. -/
def handOver (l : Lock) : Lock := ⟨l.waiting.head?, l.waiting.tail⟩

/-- A call that holds the lock hands it over; another one leaves the line. -/
def leave (l : Lock) (id : CallId) : Lock :=
  if l.holder = some id then l.handOver else { l with waiting := l.waiting.filter (· ≠ id) }

end Lock

inductive Stage where
  | waiting
  | working
  deriving DecidableEq, Repr

structure Visit where
  id : CallId
  stage : Stage
  deriving DecidableEq, Repr

structure Gate where
  lock : Lock
  visits : Table Visit.id

namespace Gate

def clear : Gate := ⟨.free, .empty⟩

def stage? (g : Gate) (id : CallId) : Option Stage := (g.visits.find? id).map Visit.stage

/-- A call comes once. -/
def enter (g : Gate) (id : CallId) : Gate :=
  if g.visits.contains id then g else ⟨g.lock.enter id, g.visits.put ⟨id, .waiting⟩⟩

def mayStart (g : Gate) (id : CallId) : Bool :=
  g.stage? id = some .waiting && g.lock.holder = some id

def works (g : Gate) (id : CallId) : Bool := g.stage? id = some .working

def start (g : Gate) (id : CallId) : Gate := { g with visits := g.visits.put ⟨id, .working⟩ }

/-- Whether it is done or has given up. -/
def leave (g : Gate) (id : CallId) : Gate :=
  if g.visits.contains id then ⟨g.lock.leave id, g.visits.erase id⟩ else g

end Gate

inductive Progress (α : Type) where
  | answered (result : Except Error α)
  | waits
  /-- It asks the source behind the gate. -/
  | fetches
  /-- The event is not one for this call. -/
  | ignored

end Entitlement
