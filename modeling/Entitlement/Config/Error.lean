import Entitlement.Text.Quoted

/-!
# Errors of a configuration

* `ConfigError` : why a configuration cannot be used; `ConfigError.message`.
-/

namespace Entitlement

inductive ConfigError where
  | unreadable
  | malformed
  | noServerPort
  | noHost
  | noUser
  | unknownSslMode
  | noConnections
  | noRegion
  | noPassword
  | invalidSslMode (mode : String)
  deriving DecidableEq, Repr

namespace ConfigError

/-- The letters of ASCII in lower case. -/
def lowered (s : String) : String := String.ofList (s.toList.map Char.toLower)

def message : ConfigError → String
  | unreadable => "Failed to read configuration file"
  | malformed => "Failed to parse configuration file"
  | noServerPort => "Server port must be non-zero"
  | noHost => "Database host must be set"
  | noUser => "Database user must be set"
  | unknownSslMode => "Database ssl_mode must be one of disable, allow, prefer, require, " ++
      "verify-ca, verify-full"
  | noConnections => "Database max_connections must be greater than 0"
  | noRegion => "IAM auth requires database.auth.region or AWS_REGION"
  | noPassword => "Database password must be set when auth mode is 'password'"
  | invalidSslMode mode => "Invalid ssl_mode " ++ mode ++
      ": error with configuration: unknown value " ++ Text.quoted (lowered mode) ++
      " for `ssl_mode`"

end ConfigError

end Entitlement
