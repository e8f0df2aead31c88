import Entitlement.Environment
import Entitlement.Error
import Entitlement.Text.Quoted

/-!
# Signing keys

* `SigningKeys` : what tokens are signed with; `SigningKeys.ofEnvironment` : the keys that the
  environment names; `SigningKeys.display` : without the secret ones.
-/

namespace Entitlement

structure SigningKeys where
  id : String
  secret : String
  session : Option String
  deriving DecidableEq

namespace SigningKeys

/-- A setting that has to be there, and not empty. -/
def required (env : Environment) (name : String) : Except Error String :=
  match env.filled? name with
  | some value => .ok value
  | none => .error (.credential (name ++ " not set"))

def ofEnvironment (env : Environment) : Except Error SigningKeys := do
  let id ← required env "AWS_ACCESS_KEY_ID"
  let secret ← required env "AWS_SECRET_ACCESS_KEY"
  return ⟨id, secret, env.filled? "AWS_SESSION_TOKEN"⟩

def display (k : SigningKeys) : String :=
  "AwsCredentials \x7b access_key_id: " ++ Text.quoted k.id ++ ", .. \x7d"

end SigningKeys

end Entitlement
