import Swarm.Bencode.Grammar
import Swarm.Main
import Swarm.Wire.Frame
import Swarm.Proofs.Bencode.RoundTrip
import Swarm.Proofs.Bencode.Span
import Swarm.Proofs.Torrent.RawInfo
import Swarm.Proofs.Bencode.Canonical
import Swarm.Proofs.Torrent.Canonical
import Swarm.Proofs.Torrent.RoundTrip
import Swarm.Proofs.Stream.Source
import Swarm.Proofs.Wire.Frame
import Swarm.Proofs.Wire.Handshake
import Swarm.Proofs.Wire.MessageLength
import Swarm.Proofs.Wire.Exchange
import Swarm.Proofs.Session.Race
import Swarm.Proofs.Bencode.SelfDelimiting
import Swarm.Proofs.Bencode.Stability
import Swarm.Proofs.Torrent.Requirement
import Swarm.Proofs.Torrent.Independence
import Swarm.Proofs.Torrent.Preimage
import Swarm.Proofs.Torrent.TotalLength
import Swarm.Proofs.Torrent.PieceLength
import Swarm.Proofs.Torrent.PieceHash
import Swarm.Proofs.Wire.Payload
import Swarm.Proofs.Bencode.FaultShape
import Swarm.Proofs.Bencode.Round
import Swarm.Proofs.Bencode.Depth
import Swarm.Proofs.Tracker.Response
import Swarm.Proofs.Tracker.Request
import Swarm.Proofs.Tracker.Announce
import Swarm.Proofs.Wire.Bitfield
import Swarm.Proofs.Wire.Extension
import Swarm.Proofs.Command.Run
