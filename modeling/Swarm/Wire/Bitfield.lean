import Swarm.Bytes.Basic

/-!
# Sets of pieces

The pieces a peer has are sent as a row of bits, the first piece in the most significant bit of
the first octet.

## Main definitions

* `Bitfield`: a row of bits
* `Bitfield.ofPieces`, `Bitfield.ofBytes`: a row without pieces, and the row of some octets
* `Bitfield.has`, `Bitfield.set`: asking for a piece, and adding one
-/

namespace Swarm.Wire

/-- A set of pieces, as a row of bits. -/
structure Bitfield where
  data : Bytes
  deriving DecidableEq

namespace Bitfield

/-- The row of some octets. -/
def ofBytes (data : Bytes) : Bitfield :=
  ⟨data⟩

/-- The empty set, with room for a number of pieces. -/
def ofPieces (count : Nat) : Bitfield :=
  ⟨List.replicate ((count + 7) / 8) 0⟩

/-- The bit of a piece in its octet. -/
def mask (index : Nat) : UInt8 :=
  1 <<< UInt8.ofNat (7 - index % 8)

/-- Whether a piece is in the set; there is none past the end of the row. -/
def has (field : Bitfield) (index : Nat) : Bool :=
  match field.data[index / 8]? with
  | some byte => byte &&& mask index != 0
  | none => false

/-- Adds a piece; past the end of the row nothing is added. -/
def set (field : Bitfield) (index : Nat) : Bitfield :=
  ⟨field.data.modify (index / 8) (· ||| mask index)⟩

end Bitfield

end Swarm.Wire
