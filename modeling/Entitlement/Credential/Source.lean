import Entitlement.Credential.Provider
import Entitlement.Credential.Signer

/-!
# Password sources

* `Script` : tokens that are written down, the last one given again and again;
* `TokenSource` : a script, or a signer with its environment; `TokenSource.next` : its next token,
  and how long it takes;
* `PasswordSource` : a fixed password, or the tokens of a source, fetched each time or cached.
-/

namespace Entitlement

/-- A token, or an error instead of it, that comes after a while. -/
structure Fetch where
  delay : Span
  result : Except Error String

structure Script where
  entries : List Fetch
  /-- How often it was asked. -/
  calls : Nat

namespace Script

def ofEntries (entries : List Fetch) : Script := ⟨entries, 0⟩

/-- The answer of an empty script. -/
def blank : Fetch := ⟨⟨0⟩, .error (.credential "no script entry")⟩

def current (s : Script) : Fetch := (s.entries[s.calls]?).getD (s.entries.getLast?.getD blank)

end Script

inductive TokenSource where
  | script (s : Script)
  | signer (s : TokenSigner) (env : Environment)

namespace TokenSource

def next (now : Moment) : TokenSource → Fetch × TokenSource
  | script s => (s.current, script { s with calls := s.calls + 1 })
  | signer s env => (⟨⟨0⟩, s.fetch env now⟩, signer s env)

/-- How many answers of a script were used. -/
def used : TokenSource → Nat
  | script s => s.calls
  | signer .. => 0

end TokenSource

inductive PasswordSource where
  | fixed (password : String)
  | direct (source : TokenSource)
  | cached (source : TokenSource) (provider : Provider)

namespace PasswordSource

def used : PasswordSource → Nat
  | fixed _ => 0
  | direct s | cached s _ => s.used

def expiry? : PasswordSource → Option Moment
  | cached _ p => p.cached.map CachedToken.expiry
  | _ => none

end PasswordSource

end Entitlement
