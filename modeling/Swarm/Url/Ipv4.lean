import Swarm.Bytes.Hex
import Swarm.Text.Split

/-!
# Addresses of four octets

A host that ends in a number has to be an address of four octets. It is written as up to four
numbers with dots between them, each decimal, octal or hexadecimal; the last stands for all octets
that are left.

## Main definitions

* `Ipv4`: an address
* `Ipv4.endsInNumber`: whether a host has to be one
* `Ipv4.parse?`: the address that a host is
* `Ipv4.text`: the text of an address
-/

namespace Swarm.Url

/-- An address of four octets, as a number. -/
structure Ipv4 where
  value : UInt32
  deriving DecidableEq

namespace Ipv4

/-- The number that digits of a base stand for, if there is no other character. -/
def ofDigits? (base : Nat) (digits : List Char) : Option Nat :=
  digits.foldlM (fun value c =>
    match Hex.digit? c with
    | some digit => if digit < base then some (value * base + digit) else none
    | none => none) 0

/-- The number that a part between dots stands for: hexadecimal behind `0x`, octal behind another
zero, else decimal. Nothing behind the mark of a base counts as zero. -/
def number? : List Char → Option Nat
  | [] => none
  | '0' :: 'x' :: digits => ofDigits? 16 digits
  | '0' :: 'X' :: digits => ofDigits? 16 digits
  | ['0'] => some 0
  | '0' :: digits => ofDigits? 8 digits
  | digits => ofDigits? 10 digits

/-- The parts of a host between dots, without an empty last one. -/
def parts (host : List Char) : List (List Char) :=
  let all := Text.splitAt '.' host
  if all.getLast? = some [] then all.dropLast else all

/-- Whether a host ends in a number, with or without a dot behind it. -/
def endsInNumber (host : List Char) : Bool :=
  match (parts host).getLast? with
  | none => false
  | some last =>
    (!last.isEmpty && last.all fun c => '0' ≤ c && c ≤ '9') || (number? last).isSome

/-- The number of the octets that the numbers of all parts stand for. -/
def combine? (numbers : List Nat) : Option Nat :=
  match numbers.getLast? with
  | none => none
  | some last =>
    let first := numbers.dropLast
    -- The last number fills the octets that the others leave.
    let bound := 1 <<< (8 * (4 - first.length))
    if first.length < 4 ∧ first.all (· < 256) ∧ last < bound then
      some (first.foldl (fun value n => value * 256 + n) 0 * bound + last)
    else none

/-- The address that a host is. -/
def parse? (host : List Char) : Option Ipv4 :=
  ((parts host).mapM number?).bind combine? |>.map fun value => ⟨UInt32.ofNat value⟩

/-- The four octets of an address, dots between them. -/
def text (address : Ipv4) : String :=
  let n := address.value.toNat
  s!"{n >>> 24}.{(n >>> 16) % 256}.{(n >>> 8) % 256}.{n % 256}"

end Ipv4

end Swarm.Url
