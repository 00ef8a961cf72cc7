import Swarm.Bytes.Basic

/-!
# Hexadecimal text

An octet is written as two hexadecimal digits. Digests and peer ids are shown in lower case;
percent-encoded text uses upper case in an address and lower case in a query of the client.

## Main definitions

* `Hex.lower`, `Hex.upper`: the two digits of an octet
* `Hex.ofBytes`: the lower-case text of a sequence of octets
* `Hex.digit?`: the value of a hexadecimal digit of either case
-/

namespace Swarm.Hex

/-- The character of a value below sixteen, in lower case. -/
def lowerDigit (value : UInt8) : Char :=
  if value < 10 then Char.ofNat (48 + value.toNat) else Char.ofNat (87 + value.toNat)

/-- The character of a value below sixteen, in upper case. -/
def upperDigit (value : UInt8) : Char :=
  if value < 10 then Char.ofNat (48 + value.toNat) else Char.ofNat (55 + value.toNat)

/-- The two lower-case digits of an octet, the more significant first. -/
def lower (byte : UInt8) : List Char :=
  [lowerDigit (byte / 16), lowerDigit (byte % 16)]

/-- The two upper-case digits of an octet, the more significant first. -/
def upper (byte : UInt8) : List Char :=
  [upperDigit (byte / 16), upperDigit (byte % 16)]

/-- The lower-case hexadecimal text of a sequence of octets. -/
def ofBytes (data : Bytes) : String :=
  String.ofList (data.flatMap lower)

/-- The value of a hexadecimal digit of either case. -/
def digit? (c : Char) : Option Nat :=
  if '0' ≤ c ∧ c ≤ '9' then some (c.toNat - 48)
  else if 'a' ≤ c ∧ c ≤ 'f' then some (c.toNat - 87)
  else if 'A' ≤ c ∧ c ≤ 'F' then some (c.toNat - 55)
  else none

end Swarm.Hex
