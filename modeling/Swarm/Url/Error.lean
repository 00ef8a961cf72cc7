/-!
# Why a text is no address

## Main definitions

* `ParseError`: the faults
* `ParseError.message`: the text that reports a fault
-/

namespace Swarm.Url

/-- Why a text is no address. -/
inductive ParseError where
  /-- A host has to be named, but is not. -/
  | emptyHost
  /-- The host is no domain name that can be written in ASCII. -/
  | invalidDomainName
  /-- The port is no number of sixteen bits. -/
  | invalidPort
  /-- The host ends in a number, but is no address of four octets. -/
  | invalidIpv4Address
  /-- The host stands in brackets, but is no address of sixteen octets. -/
  | invalidIpv6Address
  /-- The host holds a character that no host holds. -/
  | invalidDomainCharacter
  /-- There is no scheme. -/
  | relativeWithoutBase
  deriving DecidableEq

/-- The text that reports a fault. -/
def ParseError.message : ParseError → String
  | .emptyHost => "empty host"
  | .invalidDomainName => "invalid international domain name"
  | .invalidPort => "invalid port number"
  | .invalidIpv4Address => "invalid IPv4 address"
  | .invalidIpv6Address => "invalid IPv6 address"
  | .invalidDomainCharacter => "invalid domain character"
  | .relativeWithoutBase => "relative URL without a base"

end Swarm.Url
