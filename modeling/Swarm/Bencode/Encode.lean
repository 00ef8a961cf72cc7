import Swarm.Bencode.Value
import Swarm.Bytes.Decimal

/-!
# Writing bencode

Integers and lengths are written in canonical decimal text, and the entries of a dictionary in
ascending order of their keys, so a well-formed value has exactly one written form.

## Main definitions

* `encodeString`: a length, a colon and the octets
* `Value.encode`: the written form of a value
* `encodeDict`: the written form of a dictionary
-/

namespace Swarm.Bencode

/-- The octet `:`, which ends a length. -/
abbrev colon : UInt8 := 58

/-- The octet `i`, which opens an integer. -/
abbrev openInt : UInt8 := 105

/-- The octet `l`, which opens a list. -/
abbrev openList : UInt8 := 108

/-- The octet `d`, which opens a dictionary. -/
abbrev openDict : UInt8 := 100

/-- The octet `e`, which closes an integer, a list or a dictionary. -/
abbrev closing : UInt8 := 101

/-- A byte string: its length, a colon and its octets. -/
def encodeString (data : Bytes) : Bytes :=
  Decimal.ofNat data.length ++ colon :: data

namespace Value

mutual

/-- The written form of a value. -/
def encode : Value → Bytes
  | .int n => openInt :: (Decimal.ofInt n.toInt ++ [closing])
  | .bytes data => encodeString data
  | .list items => openList :: (encodeItems items ++ [closing])
  | .dict entries => openDict :: (encodeEntries entries ++ [closing])

/-- The items of a list, one after the other. -/
def encodeItems : List Value → Bytes
  | [] => []
  | item :: rest => encode item ++ encodeItems rest

/-- The entries of a dictionary, one after the other, each its key and its value. -/
def encodeEntries : List (Bytes × Value) → Bytes
  | [] => []
  | (key, value) :: rest => encodeString key ++ encode value ++ encodeEntries rest

end

end Value

/-- The written form of a dictionary. -/
def encodeDict (entries : List (Bytes × Value)) : Bytes :=
  (Value.dict entries).encode

end Swarm.Bencode
