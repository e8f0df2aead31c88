import Entitlement.Config.Check
import Entitlement.Service.Resolve
import Entitlement.Sql.Store

/-!
# The service of a configuration

* `Config.pools` : the pools of the tenants, none of them made yet;
* `Config.service` : a service over the tenants' databases.
-/

namespace Entitlement.Config

def pools (c : Config) (env : Environment) (now : Moment) (defaults : ConnectOptions) :
    Except ConfigError Rehearsal := do
  return .start (← c.database.poolSettings) (← c.database.passwordSource env) now defaults

/-- The service, and the pools that it starts with. -/
def service (c : Config) (env : Environment) (now : Moment) (db : Database)
    (defaults : ConnectOptions := .unset) : Except ConfigError (Service Backend × Backend) := do
  return (⟨db.store, c.requestTimeout⟩, .ofPools (← c.pools env now defaults))

end Entitlement.Config
