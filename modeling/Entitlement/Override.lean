import Entitlement.Error
import Entitlement.Permission

/-!
# Permissions granted to or taken from one user

* `OverrideKind` : `extra` grants, `revoked` takes away; `OverrideKind.parse` reads a stored kind;
* `OverrideRow` : a stored override, its kind not yet read;
* `Overrides.partition` : the permissions of either kind, unless a row has neither.
-/

namespace Entitlement

inductive OverrideKind where
  | extra
  | revoked
  deriving DecidableEq, Repr

def OverrideKind.text : OverrideKind → String
  | extra => "extra"
  | revoked => "revoked"

def OverrideKind.parse (s : String) : Except Error OverrideKind :=
  if s = "extra" then .ok .extra
  else if s = "revoked" then .ok .revoked
  else .error (.unknownOverride s)

structure OverrideRow where
  permission : Permission
  kind : String
  deriving DecidableEq, Repr

def OverrideRow.key (r : OverrideRow) : String × String := r.permission.key

structure Overrides where
  extra : List Permission
  revoked : List Permission
  deriving DecidableEq, Repr

namespace Overrides

def none : Overrides := ⟨[], []⟩

def add (o : Overrides) (p : Permission) : OverrideKind → Overrides
  | .extra => { o with extra := o.extra ++ [p] }
  | .revoked => { o with revoked := o.revoked ++ [p] }

/-- The rows one after the other; the first of an unknown kind ends it. -/
def addRows (o : Overrides) : List OverrideRow → Except Error Overrides
  | [] => .ok o
  | row :: rows => do (o.add row.permission (← OverrideKind.parse row.kind)).addRows rows

def partition (rows : List OverrideRow) : Except Error Overrides := none.addRows rows

end Overrides

theorem OverrideKind.parse_text (k : OverrideKind) : OverrideKind.parse k.text = .ok k := by
  cases k <;> rfl

end Entitlement
