import Entitlement.Credential.Token
import Entitlement.Gate
import Entitlement.Log

/-!
# Caching tokens

* `Provider` : the token in use with its expiry, and the calls that wait for a new one;
* `Provider.ask` : a call that finds no valid token goes to the gate;
* `Provider.turn` : a call that is let in looks again, and fetches a token only if it still has to;
* `Provider.arrived` : what was fetched is cached if its expiry can be read, and answers this call
  alone;
* `Provider.dropped` : a call that is given up, wherever it is;
* `Provider.step` : any of these events.
-/

namespace Entitlement

structure CachedToken where
  token : String
  expiry : Moment
  deriving DecidableEq, Repr

structure Provider where
  cached : Option CachedToken
  gate : Gate

namespace Provider

def empty : Provider := ⟨none, .clear⟩

inductive Event where
  | ask (id : CallId) (now : Moment)
  | turn (id : CallId) (now : Moment)
  | arrived (id : CallId) (fetched : Except Error String)
  | dropped (id : CallId)

/-- The cached token, if it expires later than now. -/
def valid? (p : Provider) (now : Moment) : Option String :=
  p.cached.bind fun c => if c.expiry.isAfter now then some c.token else none

def ask (p : Provider) (id : CallId) (now : Moment) : Provider × Progress String :=
  match p.valid? now with
  | some token => (p, .answered (.ok token))
  | none => ({ p with gate := p.gate.enter id }, .waits)

def turn (p : Provider) (id : CallId) (now : Moment) : Provider × Progress String :=
  if p.gate.mayStart id then
    match p.valid? now with
    | some token => ({ p with gate := p.gate.leave id }, .answered (.ok token))
    | none => ({ p with gate := p.gate.start id }, .fetches)
  else (p, .ignored)

/-- A fetched token with its expiry. -/
def reading (fetched : Except Error String) : Except Error CachedToken := do
  let token ← fetched
  return ⟨token, ← Token.expiry token⟩

def arrived (p : Provider) (id : CallId) (fetched : Except Error String) :
    Provider × Progress String :=
  if p.gate.works id then
    match reading fetched with
    | .ok c => (⟨some c, p.gate.leave id⟩, .answered (.ok c.token))
    | .error e => ({ p with gate := p.gate.leave id }, .answered (.error e))
  else (p, .ignored)

def dropped (p : Provider) (id : CallId) : Provider := { p with gate := p.gate.leave id }

def step (p : Provider) : Event → Provider × Progress String
  | .ask id now => p.ask id now
  | .turn id now => p.turn id now
  | .arrived id fetched => p.arrived id fetched
  | .dropped id => (p.dropped id, .ignored)

/-- The entry for a token that was fetched and cached. -/
def refreshed (fetched : Except Error String) : List LogEntry :=
  match reading fetched with
  | .ok c => [.debug "Refreshed database auth token" [("expires", c.expiry.display)]]
  | .error _ => []

end Provider

end Entitlement
