import Entitlement.Url.Host

/-!
# Addresses

* `Url` : the scheme, the host, the port and the query of an address; `Url.parse` reads one;
* `SchemeKind` : what the scheme says about the form of the rest.
-/

namespace Entitlement

structure Url where
  scheme : String
  host : Option Host
  port : Option Nat
  query : Option String
  deriving DecidableEq, Repr

inductive SchemeKind where
  | file
  /-- Has a domain name as its host, and takes a backslash for a slash. -/
  | special
  | other
  deriving DecidableEq, Repr

namespace Url

def kindOf (scheme : String) : SchemeKind :=
  if scheme = "file" then .file
  else if ["http", "https", "ws", "wss", "ftp"].contains scheme then .special
  else .other

/-- The port that a scheme stands for. -/
def defaultPort? (scheme : String) : Option Nat :=
  if scheme = "http" ∨ scheme = "ws" then some 80
  else if scheme = "https" ∨ scheme = "wss" then some 443
  else if scheme = "ftp" then some 21
  else none

/-- Without controls and spaces at either end, and without line breaks and tabs anywhere. -/
def clean (s : String) : List Char :=
  let outer (c : Char) : Bool := c.toNat ≤ 0x20
  let trimmed := ((s.toList.dropWhile outer).reverse.dropWhile outer).reverse
  trimmed.filter fun c => c ≠ '\t' ∧ c ≠ '\n' ∧ c ≠ '\r'

def isSchemeChar (c : Char) : Bool := c.isAlphanum || c == '+' || c == '-' || c == '.'

/-- The scheme in lower case, and what follows its colon. -/
def scheme? (cs : List Char) : Option (String × List Char) :=
  match cs.dropWhile isSchemeChar with
  | ':' :: rest =>
    if (cs.head?.map Char.isAlpha).getD false then
      some (String.ofList ((cs.takeWhile isSchemeChar).map Char.toLower), rest)
    else none
  | _ => none

/-- The query, between the first question mark and a number sign. -/
def queryOf (path : List Char) : Option String :=
  match path.dropWhile fun c => c ≠ '?' ∧ c ≠ '#' with
  | '?' :: rest => some (String.ofList (rest.takeWhile (· ≠ '#')))
  | _ => none

/-! ## Authority -/

/-- The character ends the authority. -/
def endsAuthority (kind : SchemeKind) (c : Char) : Bool :=
  c == '/' || c == '?' || c == '#' || (c == '\\' && kind != .other)

/-- The part before the last at sign, if there is one, and the part after it. -/
def splitUser (authority : List Char) : Option (List Char) × List Char :=
  let back := authority.reverse
  match back.dropWhile (· ≠ '@') with
  | _ :: user => (some user.reverse, (back.takeWhile (· ≠ '@')).reverse)
  | [] => (none, authority)

/-- The host, up to a colon outside square brackets, and what follows it. -/
def splitHost (inside : Bool) : List Char → List Char × List Char
  | [] => ([], [])
  | c :: cs =>
    if c = ':' ∧ !inside then ([], c :: cs)
    else
      let inside := if c = '[' then true else if c = ']' then false else inside
      (c :: (splitHost inside cs).1, (splitHost inside cs).2)

/-- The port after a colon: a number of 16 bits, which may be missing. A backslash ends it too. -/
def parsePort (scheme : String) : List Char → Except UrlError (Option Nat)
  | ':' :: cs =>
    let digits := cs.takeWhile Text.isDigit
    let port := Text.decimalValue digits
    match cs.dropWhile Text.isDigit with
    | [] | '\\' :: _ =>
      if 65535 < port then .error .badPort
      else .ok (if digits.isEmpty ∨ defaultPort? scheme = some port then none else some port)
    | _ => .error .badPort
  | _ => .ok none

def parseAuthority (scheme : String) (kind : SchemeKind) (authority path : List Char) :
    Except UrlError (Option Host × Option Nat) := do
  let (user, rest) := splitUser authority
  if user = some [] ∧ rest = [] ∧ path ≠ [] then throw .emptyHost
  let (name, after) := splitHost false rest
  if kind = .special ∧ name = [] then throw .emptyHost
  let host ← if kind = .special then Host.ofDomain name else Host.ofOpaque name
  if name = [] ∧ after ≠ [] then throw .emptyHost
  let port ← parsePort scheme after
  if name = [] then
    match user with
    | none | some [] | some [':'] => return (none, port)
    | _ => throw .emptyHost
  else return (some host, port)

/-- What follows the slashes before an authority. -/
def parseAfterSlashes (scheme : String) (kind : SchemeKind) (cs : List Char) :
    Except UrlError Url := do
  let authority := cs.takeWhile fun c => !endsAuthority kind c
  let path := cs.dropWhile fun c => !endsAuthority kind c
  let (host, port) ← parseAuthority scheme kind authority path
  return ⟨scheme, host, port, queryOf path⟩

/-! ## Files -/

def isSlash (c : Char) : Bool := c == '/' || c == '\\'

def isDriveLetter : List Char → Bool
  | [c, d] => c.isAlpha && (d == ':' || d == '|')
  | _ => false

/-- The host between the second slash and the path, unless it is the letter of a drive. -/
def parseFileHost (cs : List Char) : Except UrlError (Option Host) :=
  let host := cs.takeWhile fun c => !endsAuthority .file c
  if host.isEmpty || isDriveLetter host then .ok none
  else match Host.ofDomain host with
    | .error e => .error e
    | .ok (.name "localhost") => .ok none
    | .ok h => .ok (some h)

def parseFile (cs : List Char) : Except UrlError Url :=
  match cs with
  | a :: b :: rest =>
    if isSlash a && isSlash b then
      (parseFileHost rest).map fun host => ⟨"file", host, none, queryOf rest⟩
    else .ok ⟨"file", none, none, queryOf cs⟩
  | cs => .ok ⟨"file", none, none, queryOf cs⟩

/-! ## Addresses -/

def parse (s : String) : Except UrlError Url :=
  match scheme? (clean s) with
  | none => .error .noScheme
  | some (scheme, rest) =>
    match kindOf scheme with
    | .file => parseFile rest
    | .special => parseAfterSlashes scheme .special (rest.dropWhile isSlash)
    | .other =>
      match rest with
      | '/' :: '/' :: rest => parseAfterSlashes scheme .other rest
      | rest => .ok ⟨scheme, none, none, queryOf rest⟩

end Url

end Entitlement
