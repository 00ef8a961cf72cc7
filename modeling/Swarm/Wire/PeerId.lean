import Swarm.Bytes.Octets

/-!
# Peer ids

A client picks an id for itself: eight octets that tell the client and its version, and twelve
random ones.

## Main definitions

* `PeerId.clientMark`: the octets that tell the client
* `PeerId.ofRandom`: the id that twelve random octets make
* `PeerId.generate`: an id whose random octets come from a source that repeats itself
-/

namespace Swarm.Wire.PeerId

/-- The octets that tell the client and its version. -/
def clientMark : Octets 8 :=
  ⟨Bytes.ofString "-BC0001-", by decide⟩

/-- The id that twelve random octets make. -/
def ofRandom (random : Octets 12) : Octets 20 :=
  ⟨clientMark.data ++ random.data, by
    rw [List.length_append, clientMark.length_data, random.length_data]⟩

/-- The octet at a place of a sequence that repeats itself, zero if the sequence is empty. -/
def cyclic (random : Bytes) (place : Nat) : UInt8 :=
  random.getD (place % random.length) 0

/-- An id whose random octets are the twelve of a repeating source that follow the first
`used`. -/
def generate (random : Bytes) (used : Nat) : Octets 20 :=
  ofRandom ⟨(List.range 12).map fun i => cyclic random (used + i), by simp⟩

/-- The ids that are generated one after the other from a repeating source. -/
def generateMany (random : Bytes) (count : Nat) : List (Octets 20) :=
  (List.range count).map fun i => generate random (12 * i)

end Swarm.Wire.PeerId
