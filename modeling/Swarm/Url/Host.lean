import Swarm.DomainName.Ascii
import Swarm.Text.Utf8
import Swarm.Url.Error
import Swarm.Url.Ipv6
import Swarm.Url.Percent

/-!
# Hosts

Under a special scheme a host is a domain name, which is brought into ASCII, or an address of four
or of sixteen octets. Under any other scheme it is an address of sixteen octets or a text that is
kept as it is.

## Main definitions

* `Host`: the kinds of hosts
* `Host.parse`, `Host.parseOther`: the host of a special scheme, and of any other
* `Host.text`: the text of a host
-/

namespace Swarm.Url

/-- Where an address leads. -/
inductive Host where
  /-- A name, or nothing. -/
  | name (text : String)
  | ipv4 (address : Ipv4)
  | ipv6 (address : Ipv6)
  deriving DecidableEq

namespace Host

/-- No host is named. -/
def empty : Host :=
  .name ""

/-- The text of a host. -/
def text : Host → String
  | .name n => n
  | .ipv4 address => address.text
  | .ipv6 address => "[" ++ address.text ++ "]"

/-- The address in brackets, of which the opening one has been read. -/
def parseBracketed (rest : List Char) : Except ParseError Host :=
  if rest.getLast? = some ']' then
    match Ipv6.parse? rest.dropLast with
    | some address => .ok (.ipv6 address)
    | none => .error .invalidIpv6Address
  else .error .invalidIpv6Address

/-- The host of a special scheme. -/
def parse (text : List Char) : Except ParseError Host :=
  match text with
  | '[' :: rest => parseBracketed rest
  | _ =>
    match (Utf8.text? (Percent.decode text)).bind fun name => DomainName.toAscii? name.toList with
    | none => .error .invalidDomainName
    | some [] => .error .emptyHost
    | some (first :: rest) =>
      if Ipv4.endsInNumber (first :: rest) then
        match Ipv4.parse? (first :: rest) with
        | some address => .ok (.ipv4 address)
        | none => .error .invalidIpv4Address
      else .ok (.name (String.ofList (first :: rest)))

/-- Whether no host holds a character. -/
def isForbidden (c : Char) : Bool :=
  "\x00\t\n\r #/:<>?@[\\]^|".contains c

/-- The host of a scheme that is not special. -/
def parseOther (text : List Char) : Except ParseError Host :=
  match text with
  | '[' :: rest => parseBracketed rest
  | _ =>
    if text.any isForbidden then .error .invalidDomainCharacter
    else .ok (.name (String.ofList (Percent.encode Percent.controls text)))

end Host

end Swarm.Url
