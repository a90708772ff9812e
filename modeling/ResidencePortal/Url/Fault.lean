/-!
# Faults of addresses

Why a text is not an address.
-/

namespace ResidencePortal.Url

/-- What is wrong with an address. -/
inductive Fault where
  | noScheme
  | emptyHost
  | badIpv4
  | badIpv6
  /-- The host is not a domain name. -/
  | badDomain
  /-- The host of a scheme outside the web holds a character that no host has. -/
  | badDomainChar
  | badPort
deriving Repr, DecidableEq

/-- The sentence for a fault. -/
def Fault.message : Fault → String
  | .noScheme => "relative URL without a base"
  | .emptyHost => "empty host"
  | .badIpv4 => "invalid IPv4 address"
  | .badIpv6 => "invalid IPv6 address"
  | .badDomain => "invalid international domain name"
  | .badDomainChar => "invalid domain character"
  | .badPort => "invalid port number"

end ResidencePortal.Url
