import Entitlement.Text.Quoted

/-!
# Configuration

* `Auth` : how connections authenticate; `Auth.display` : without a password;
* `ServerSettings`, `DatabaseSettings`, `Config` : all settings, with their standard values.
-/

namespace Entitlement

inductive Auth where
  /-- By a token signed for a region, which the environment may name instead. -/
  | iam (region : Option String)
  | password (password : String)
  deriving DecidableEq, Repr

def Auth.display : Auth → String
  | iam (some region) => "Iam \x7b region: Some(" ++ Text.quoted region ++ ") \x7d"
  | iam none => "Iam \x7b region: None \x7d"
  | password _ => "Password \x7b .. \x7d"

structure ServerSettings where
  host : String
  port : Nat
  logLevel : String
  deriving DecidableEq, Repr

def ServerSettings.standard : ServerSettings := ⟨"0.0.0.0", 8080, "info"⟩

structure DatabaseSettings where
  host : String
  port : Nat
  user : String
  sslMode : String
  applicationName : String
  maxConnections : Nat
  acquireTimeoutMillis : Nat
  /-- In seconds; none for 0. -/
  idleTimeout : Nat
  maxLifetime : Nat
  auth : Auth
  deriving DecidableEq, Repr

structure Config where
  server : ServerSettings
  database : DatabaseSettings
  /-- The longest time a request may take; none for 0. -/
  timeoutMillis : Nat
  deriving DecidableEq, Repr

/-- In milliseconds. -/
def Config.standardTimeout : Nat := 10000

end Entitlement
