import Entitlement.Credential.Keys
import Entitlement.Digest.Hmac
import Entitlement.Text.Hex
import Entitlement.Text.Percent
import Entitlement.Time.Moment

/-!
# Signing tokens

* `TokenSigner` : where and as whom a token lets one connect;
* `TokenSigner.presign` : the token, signed at a moment, good for a quarter of an hour;
* `TokenSigner.signature` : the signature of a query at a moment;
* `TokenSigner.fetch` : a token signed with given keys, or with those of the environment.
-/

namespace Entitlement

structure TokenSigner where
  host : String
  port : Nat
  user : String
  region : String
  /-- Without any, those of the environment are used. -/
  keys : Option SigningKeys

namespace TokenSigner
open Text Digest

/-- In seconds. -/
def lifetime : Nat := 900

def serviceName : String := "rds-db"

/-- What a signature is good for: one day, in one region, for one service. -/
def scope (s : TokenSigner) (now : Moment) : String :=
  now.day ++ "/" ++ s.region ++ "/" ++ serviceName ++ "/aws4_request"

def endpoint (s : TokenSigner) : String := s.host ++ ":" ++ decimal s.port

/-- The parameters of the query, by name. -/
def parameters (s : TokenSigner) (keys : SigningKeys) (now : Moment) : List (String × String) :=
  [("Action", "connect"), ("DBUser", s.user), ("X-Amz-Algorithm", "AWS4-HMAC-SHA256"),
   ("X-Amz-Credential", keys.id ++ "/" ++ s.scope now), ("X-Amz-Date", now.stamp),
   ("X-Amz-Expires", decimal lifetime)] ++
  (keys.session.map fun t => ("X-Amz-Security-Token", t)).toList ++
  [("X-Amz-SignedHeaders", "host")]

def query (parameters : List (String × String)) : String :=
  "&".intercalate (parameters.map fun p => percentEncode p.1 ++ "=" ++ percentEncode p.2)

def digestText (s : String) : String := hex (sha256 (Utf8.encode s))

/-- The request that a token stands for, in the form that is signed. -/
def canonicalRequest (s : TokenSigner) (query : String) : String :=
  "GET\n/\n" ++ query ++ "\nhost:" ++ s.endpoint ++ "\n\nhost\n" ++ digestText ""

def signedText (s : TokenSigner) (now : Moment) (query : String) : String :=
  "AWS4-HMAC-SHA256\n" ++ now.stamp ++ "\n" ++ s.scope now ++ "\n" ++
    digestText (s.canonicalRequest query)

/-- The key of one scope, derived step by step from the secret. -/
def signingKey (s : TokenSigner) (secret : String) (now : Moment) : List UInt8 :=
  [now.day, s.region, serviceName, "aws4_request"].foldl
    (fun key step => hmac key (Utf8.encode step)) (Utf8.encode ("AWS4" ++ secret))

def signature (s : TokenSigner) (secret : String) (now : Moment) (query : String) : String :=
  hex (hmac (s.signingKey secret now) (Utf8.encode (s.signedText now query)))

def presign (s : TokenSigner) (keys : SigningKeys) (now : Moment) : String :=
  let q := query (s.parameters keys now)
  s.endpoint ++ "/?" ++ q ++ "&X-Amz-Signature=" ++ s.signature keys.secret now q

def fetch (s : TokenSigner) (env : Environment) (now : Moment) : Except Error String :=
  match s.keys with
  | some keys => .ok (s.presign keys now)
  | none => (SigningKeys.ofEnvironment env).map fun keys => s.presign keys now

def display (s : TokenSigner) : String :=
  "RdsIamTokenSource \x7b host: " ++ quoted s.host ++ ", port: " ++ decimal s.port ++ ", user: " ++
    quoted s.user ++ ", region: " ++ quoted s.region ++ ", credentials: " ++
    (match s.keys with
      | some keys => "Some(" ++ keys.display ++ ")"
      | none => "None") ++ " \x7d"

end TokenSigner

end Entitlement
