import Swarm.Stream.Sink
import Swarm.Wire.Handshake

/-!
# Exchanging handshakes

A peer that opens a connection sends its handshake whole before it reads the other's, and goes
on only if both speak of the same torrent.

## Main definitions

* `Connection`: what one side reads and writes
* `Connection.handshake`: both handshakes exchanged
-/

namespace Swarm.Wire

/-- One side of a connection: the octets it reads and the octets it has written. -/
structure Connection where
  source : Stream.Source
  sink : Stream.Sink

namespace Connection

/-- Accepts the other side's handshake if it speaks of the torrent that ours speaks of. The fault
names the torrent that was asked for. -/
def accept (infoHash : Octets 20) (ours theirs : Handshake) : Except PeerError Handshake :=
  if theirs.infoHash = ours.infoHash then .ok theirs
  else .error (.infoHashMismatch infoHash theirs.infoHash)

/-- Sends a handshake for the torrent, and reads the other side's. -/
def handshake (connection : Connection) (infoHash peerId : Octets 20) :
    Except PeerError Handshake × Connection :=
  let ours := Handshake.standard infoHash peerId
  match connection.sink.writeAll ours.encode with
  | (.error fault, sink) => (.error (.transfer fault), { connection with sink })
  | (.ok _, sink) =>
    match Handshake.read connection.source with
    | (result, source) => (result.bind (accept infoHash ours), { source, sink })

end Connection

end Swarm.Wire
