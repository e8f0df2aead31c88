import Entitlement.Config.Error
import Entitlement.Config.Settings
import Entitlement.Credential.Source
import Entitlement.Pool.Settings

/-!
# Using a configuration

* `DatabaseSettings.region` : the region that tokens are signed for;
* `DatabaseSettings.passwordSource`, `DatabaseSettings.poolSettings` : what pools are made with;
* `Config.requestTimeout` : the longest time that a request may take;
* `Config.validate` : the first fault, if there is one.
-/

namespace Entitlement

namespace DatabaseSettings

/-- The region of the configuration, unless it is empty. -/
def namedRegion? (db : DatabaseSettings) : Option String :=
  match db.auth with
  | .iam region => region.filter (· ≠ "")
  | .password _ => none

def region (db : DatabaseSettings) (env : Environment) : Except ConfigError String :=
  match (db.namedRegion?).or (env.filled? "AWS_REGION") with
  | some region => .ok region
  | none => .error .noRegion

def passwordSource (db : DatabaseSettings) (env : Environment) :
    Except ConfigError PasswordSource :=
  match db.auth with
  | .iam _ => (db.region env).map fun region =>
      .cached (.signer ⟨db.host, db.port, db.user, region, none⟩ env) .empty
  | .password password => .ok (.fixed password)

/-- A time in seconds, of which 0 means none. -/
def seconds? (n : Nat) : Option Span := if n = 0 then none else some (.ofSeconds n)

/-- The mode is named in any case. -/
def poolSettings (db : DatabaseSettings) : Except ConfigError PoolSettings :=
  match SslMode.named? (ConfigError.lowered db.sslMode) with
  | some mode => .ok ⟨db.host, db.port, db.user, mode, db.applicationName, db.maxConnections,
      .ofMillis db.acquireTimeoutMillis, seconds? db.idleTimeout, seconds? db.maxLifetime⟩
  | none => .error (.invalidSslMode db.sslMode)

end DatabaseSettings

namespace Config

def requestTimeout (c : Config) : Option Span :=
  if c.timeoutMillis = 0 then none else some (.ofMillis c.timeoutMillis)

/-- What authentication still needs. -/
def validateAuth (c : Config) (env : Environment) : Except ConfigError Unit :=
  match c.database.auth with
  | .iam _ => (c.database.region env).map fun _ => ()
  | .password password => if password = "" then .error .noPassword else .ok ()

/-- The mode is named in lower case. -/
def validate (c : Config) (env : Environment) : Except ConfigError Unit :=
  if c.server.port = 0 then .error .noServerPort
  else if c.database.host = "" then .error .noHost
  else if c.database.user = "" then .error .noUser
  else if (SslMode.named? c.database.sslMode).isNone then .error .unknownSslMode
  else if c.database.maxConnections = 0 then .error .noConnections
  else c.validateAuth env

end Config

end Entitlement
