/-!
# The environment

* `Environment` : named settings outside the configuration; `Environment.find?` : one of them;
  `Environment.filled?` : one that is not empty.
-/

namespace Entitlement

structure Environment where
  settings : List (String × String)

namespace Environment

def find? (env : Environment) (name : String) : Option String := env.settings.lookup name

def filled? (env : Environment) (name : String) : Option String :=
  (env.find? name).filter (· ≠ "")

end Environment

end Entitlement
