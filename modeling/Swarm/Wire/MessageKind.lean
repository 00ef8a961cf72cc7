/-!
# Kinds of messages

A message starts with an octet that tells its kind.

## Main definitions

* `MessageKind`: the kinds
* `MessageKind.code`, `MessageKind.ofCode?`: the octet of a kind, and the kind of an octet
-/

namespace Swarm.Wire

/-- The kinds of messages between peers. -/
inductive MessageKind where
  | choke
  | unchoke
  | interested
  | notInterested
  /-- The sender has a piece. -/
  | have
  /-- The pieces the sender has. -/
  | bitfield
  /-- The sender asks for a block. -/
  | request
  /-- A block. -/
  | piece
  /-- The sender asks no longer for a block. -/
  | cancel
  /-- The port of the sender's node of the distributed table. -/
  | port
  deriving DecidableEq

namespace MessageKind

/-- The octet of a kind. -/
def code : MessageKind → UInt8
  | .choke => 0
  | .unchoke => 1
  | .interested => 2
  | .notInterested => 3
  | .have => 4
  | .bitfield => 5
  | .request => 6
  | .piece => 7
  | .cancel => 8
  | .port => 9

/-- The kind of an octet. -/
def ofCode? (code : UInt8) : Option MessageKind :=
  match code.toNat with
  | 0 => some .choke
  | 1 => some .unchoke
  | 2 => some .interested
  | 3 => some .notInterested
  | 4 => some .have
  | 5 => some .bitfield
  | 6 => some .request
  | 7 => some .piece
  | 8 => some .cancel
  | 9 => some .port
  | _ => none

/-- The name of a kind. -/
def name : MessageKind → String
  | .choke => "Choke"
  | .unchoke => "Unchoke"
  | .interested => "Interested"
  | .notInterested => "NotInterested"
  | .have => "Have"
  | .bitfield => "Bitfield"
  | .request => "Request"
  | .piece => "Piece"
  | .cancel => "Cancel"
  | .port => "Port"

/-- The kind of a kind's octet is that kind. -/
@[simp] theorem ofCode?_code (kind : MessageKind) : ofCode? kind.code = some kind := by
  cases kind <;> rfl

/-- An octet tells a kind just if it is the octet of that kind. -/
theorem ofCode?_eq_some_iff {octet : UInt8} {kind : MessageKind} :
    ofCode? octet = some kind ↔ kind.code = octet := by
  constructor
  · intro h
    apply UInt8.toNat_inj.mp
    unfold ofCode? at h
    split at h <;> cases h <;> exact Eq.symm ‹_›
  · rintro rfl
    exact ofCode?_code kind

/-- The octets of the kinds are those below ten. -/
theorem ofCode?_eq_none_iff {octet : UInt8} : ofCode? octet = none ↔ 10 ≤ octet := by
  rw [UInt8.le_iff_toNat_le, ofCode?]
  split <;> simp only [reduceCtorEq, UInt8.reduceToNat, false_iff, true_iff] <;> grind

end MessageKind

end Swarm.Wire
