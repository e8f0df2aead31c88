import Entitlement.Error
import Entitlement.Text.Percent
import Entitlement.Time.Stamp
import Entitlement.Url.Parse

/-!
# Tokens

* `Token.expiry` : when a token expires, by the date of its issue and its lifetime, which its query
  names. All of their occurrences have to be well formed, and the last ones count.
-/

namespace Entitlement.Token

def dateName : String := "X-Amz-Date"

def lifetimeName : String := "X-Amz-Expires"

/-- A colon before two slashes, wherever it is. -/
def namesScheme : List Char → Bool
  | ':' :: '/' :: '/' :: _ => true
  | _ :: cs => namesScheme cs
  | [] => false

/-- A token without a scheme is the address of a web page. -/
def url (token : String) : Except Error Url :=
  let text := if namesScheme token.toList then token else "https://" ++ token
  match Url.parse text with
  | .ok u => .ok u
  | .error e => .error (.credential ("parse token: " ++ e.message))

def date (value : String) : Except Error Moment :=
  match (Moment.ofStamp? value).or (Moment.ofRfc3339? value) with
  | some m => .ok m
  | none => .error (.credential ("invalid X-Amz-Date: " ++ value))

/-- The most seconds that are still a whole number of milliseconds in 63 bits. -/
def longest : Int := 9223372036854775

/-- A lifetime in seconds, at least one. -/
def lifetime (value : String) : Except Error Nat :=
  match Text.integer? value.toList with
  | some n =>
    if 0 < n ∧ n ≤ longest then .ok n.toNat
    else .error (.credential ("invalid X-Amz-Expires: " ++ value))
  | none => .error (.credential ("invalid X-Amz-Expires: " ++ value))

/-- What the parameters of a query say, so far. -/
structure Terms where
  issued : Option Moment
  lifetime : Option Nat

def Terms.add (t : Terms) (p : String × String) : Except Error Terms :=
  if p.1 = dateName then (date p.2).map fun m => { t with issued := some m }
  else if p.1 = lifetimeName then (Token.lifetime p.2).map fun n => { t with lifetime := some n }
  else .ok t

def Terms.ofPairs (pairs : List (String × String)) : Except Error Terms :=
  pairs.foldlM Terms.add ⟨none, none⟩

def Terms.expiry (t : Terms) : Except Error Moment :=
  match t.issued, t.lifetime with
  | none, _ => .error (.credential "token missing X-Amz-Date")
  | _, none => .error (.credential "token missing X-Amz-Expires")
  | some issued, some lifetime =>
    match issued.addSeconds? lifetime with
    | some m => .ok m
    | none => .error (.credential "token expiry out of range")

def expiry (token : String) : Except Error Moment := do
  let u ← url token
  let terms ← Terms.ofPairs (Text.formPairs (u.query.getD ""))
  terms.expiry

end Entitlement.Token
