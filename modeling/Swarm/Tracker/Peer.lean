import Swarm.Bytes.BigEndian
import Swarm.Tracker.Error

/-!
# Peers

A tracker names a peer by the four octets of its address and the two octets of its port, and
several peers by such groups of six octets in a row.

## Main definitions

* `Peer`: an address and a port
* `Peer.compact`: the six octets of a peer
* `Peer.ofCompact`: the peers of a row of octets
-/

namespace Swarm.Tracker

/-- Where a peer listens. -/
structure Peer where
  a : UInt8
  b : UInt8
  c : UInt8
  d : UInt8
  port : UInt16
  deriving DecidableEq

namespace Peer

/-- The address and the port, a colon between them. -/
def text (peer : Peer) : String :=
  s!"{peer.a.toNat}.{peer.b.toNat}.{peer.c.toNat}.{peer.d.toNat}:{peer.port.toNat}"

/-- The six octets of a peer. -/
def compact (peer : Peer) : Bytes :=
  [peer.a, peer.b, peer.c, peer.d] ++ BigEndian.ofUInt16 peer.port

/-- The peers of the groups of six octets in a row; an incomplete last group is left out. -/
def groups : Bytes → List Peer
  | a :: b :: c :: d :: high :: low :: rest =>
    ⟨a, b, c, d, BigEndian.toUInt16 high low⟩ :: groups rest
  | _ => []

/-- The peers of a row of octets, in order, if it is a whole number of peers. -/
def ofCompact (data : Bytes) : Except TrackerError (List Peer) :=
  if data.length % 6 = 0 then .ok (groups data) else .error (.invalidPeerListLength data.length)

end Peer

end Swarm.Tracker
