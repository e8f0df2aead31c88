import Entitlement.Text.Percent
import Entitlement.Url.Domain
import Entitlement.Url.Error
import Entitlement.Url.Ipv6

/-!
# Hosts

* `Host` : a domain name or an address; `Host.ofDomain`, `Host.ofOpaque` : from its text, under a
  scheme whose hosts are domain names, and under any other.
-/

namespace Entitlement

inductive Host where
  | name (text : String)
  | ipv4 (address : Nat)
  | ipv6 (pieces : List Nat)
  deriving DecidableEq, Repr

namespace Host

/-- An address between square brackets. -/
def ofBrackets (inner : List Char) : Except UrlError Host :=
  if inner.getLast? = some ']' then
    match Ipv6.parse? inner.dropLast with
    | some pieces => .ok (.ipv6 pieces)
    | none => .error .badIpv6
  else .error .badIpv6

/-- A name that ends in a number has to be an address. -/
def ofDomain : List Char → Except UrlError Host
  | '[' :: inner => ofBrackets inner
  | cs =>
    match Domain.ofBytes? (Text.percentDecode (Text.Utf8.encode (String.ofList cs))) with
    | none => .error .badDomain
    | some domain =>
      if domain.isEmpty then .error .emptyHost
      else if Ipv4.endsInNumber domain.toList then
        match Ipv4.parse? domain.toList with
        | some address => .ok (.ipv4 address)
        | none => .error .badIpv4
      else .ok (.name domain)

/-- Characters that end a host or have a meaning beside it. -/
def isForbidden (c : Char) : Bool := "\x00\t\n\r #/:<>?@[\\]^|".toList.contains c

def ofOpaque : List Char → Except UrlError Host
  | '[' :: inner => ofBrackets inner
  | cs => if cs.any isForbidden then .error .badHostCharacter else .ok (.name (String.ofList cs))

end Host

end Entitlement
