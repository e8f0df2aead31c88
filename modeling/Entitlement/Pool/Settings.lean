import Entitlement.Error
import Entitlement.Identity
import Entitlement.Time.Span

/-!
# Pool settings

* `SslMode` : how far a connection has to be encrypted and verified; `SslMode.named?` : by its name;
* `PoolSettings` : what all tenants' pools have in common;
* `ConnectOptions` : where, as whom and to which database a pool connects; `PoolSettings.options` :
  those of a tenant's pool, over the driver's defaults;
* `PoolLimits` : how many connections a pool keeps, and for how long.
-/

namespace Entitlement

inductive SslMode where
  | disable
  | allow
  | prefer
  | require
  | verifyCa
  | verifyFull
  deriving DecidableEq, Repr

namespace SslMode

def all : List SslMode := [disable, allow, prefer, require, verifyCa, verifyFull]

/-- The name in a configuration. -/
def name : SslMode → String
  | disable => "disable"
  | allow => "allow"
  | prefer => "prefer"
  | require => "require"
  | verifyCa => "verify-ca"
  | verifyFull => "verify-full"

/-- The name in a record. -/
def text : SslMode → String
  | disable => "Disable"
  | allow => "Allow"
  | prefer => "Prefer"
  | require => "Require"
  | verifyCa => "VerifyCa"
  | verifyFull => "VerifyFull"

def named? (name : String) : Option SslMode := all.find? fun m => m.name = name

end SslMode

structure PoolSettings where
  host : String
  port : Nat
  user : String
  sslMode : SslMode
  applicationName : String
  maxConnections : Nat
  acquireTimeout : Span
  /-- How long an unused connection is kept. -/
  idleTimeout : Option Span
  maxLifetime : Option Span
  deriving DecidableEq, Repr

def PoolSettings.standard : PoolSettings :=
  ⟨"localhost", 5432, "postgres", .prefer, "tenant-permissions", 10, .ofSeconds 3,
    some (.ofSeconds 600), some (.ofSeconds 1800)⟩

structure ConnectOptions where
  host : String
  port : Nat
  user : String
  database : String
  sslMode : SslMode
  applicationName : Option String
  password : Option String
  deriving DecidableEq, Repr

namespace ConnectOptions

def withPassword (o : ConnectOptions) (password : String) : ConnectOptions :=
  { o with password := some password }

/-- What the driver starts from where nothing around it sets a password. All else is set for each
tenant. -/
def unset : ConnectOptions := ⟨"localhost", 5432, "", "", .prefer, none, none⟩

end ConnectOptions

structure PoolLimits where
  maxConnections : Nat
  minConnections : Nat
  acquireTimeout : Span
  idleTimeout : Option Span
  maxLifetime : Option Span
  deriving DecidableEq, Repr

namespace PoolSettings

/-- The database of a tenant has the tenant's name. The password stays what it is by default. -/
def options (s : PoolSettings) (tenant : TenantId) (defaults : ConnectOptions) : ConnectOptions :=
  { defaults with
    host := s.host
    port := s.port
    user := s.user
    database := tenant.text
    sslMode := s.sslMode
    applicationName := some s.applicationName }

/-- Connections are opened only when they are needed. -/
def limits (s : PoolSettings) : PoolLimits :=
  ⟨s.maxConnections, 0, s.acquireTimeout, s.idleTimeout, s.maxLifetime⟩

end PoolSettings

end Entitlement
