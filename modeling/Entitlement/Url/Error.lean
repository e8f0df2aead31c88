/-!
# Why an address is not read

* `UrlError` : the part of the address that is at fault; `UrlError.message`.
-/

namespace Entitlement

inductive UrlError where
  | emptyHost
  | badPort
  | badIpv4
  | badIpv6
  /-- The host of a scheme that has domain names is none. -/
  | badDomain
  /-- The host of any other scheme has a character that no host has. -/
  | badHostCharacter
  | noScheme
  deriving DecidableEq, Repr

def UrlError.message : UrlError → String
  | emptyHost => "empty host"
  | badPort => "invalid port number"
  | badIpv4 => "invalid IPv4 address"
  | badIpv6 => "invalid IPv6 address"
  | badDomain => "invalid international domain name"
  | badHostCharacter => "invalid domain character"
  | noScheme => "relative URL without a base"

end Entitlement
