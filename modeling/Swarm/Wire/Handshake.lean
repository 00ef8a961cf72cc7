import Swarm.Stream.Source
import Swarm.Wire.Error
import Swarm.Wire.Extension

/-!
# Handshakes

A connection between peers starts with a handshake from each side: the name of the protocol with
its length in one octet, eight octets of flags, the digest that names the torrent, and the id of
the peer.

## Main definitions

* `Handshake`: what a handshake says; its protocol name has from 1 to 255 octets
* `Handshake.encode`: its octets
* `Handshake.read`: a handshake read from a connection
-/

namespace Swarm.Wire

/-- The name of the protocol. -/
def protocolName : Bytes :=
  Bytes.ofString "BitTorrent protocol"

/-- The number of octets after the protocol name. -/
def tailLength : Nat := 48

/-- What a handshake says. -/
structure Handshake where
  /-- The name of the protocol. -/
  protocol : Bytes
  /-- The extensions announced. -/
  flags : Flags
  /-- The digest that names the torrent. -/
  infoHash : Octets 20
  /-- The id of the peer that sends the handshake. -/
  peerId : Octets 20
  protocol_pos : 0 < protocol.length
  protocol_le : protocol.length ≤ 255
  deriving DecidableEq

namespace Handshake

/-- A handshake of the standard protocol that announces no extension. -/
def standard (infoHash peerId : Octets 20) : Handshake where
  protocol := protocolName
  flags := Flags.none
  infoHash := infoHash
  peerId := peerId
  protocol_pos := by decide
  protocol_le := by decide

/-- A handshake of a protocol of another name that announces no extension. -/
def withProtocol (protocol : Bytes) (infoHash peerId : Octets 20) : Except PeerError Handshake :=
  if hpos : protocol.length = 0 then .error .zeroProtocolLength
  else if hle : 255 < protocol.length then .error (.protocolStringTooLong protocol.length)
  else .ok
    { protocol, flags := Flags.none, infoHash, peerId
      protocol_pos := by omega
      protocol_le := by omega }

/-- The same handshake with the extension of an identifier announced, if there is one. -/
def setExtensionId (handshake : Handshake) (id : UInt8) : Handshake :=
  { handshake with flags := handshake.flags.setId id }

/-- Whether the extension of an identifier is announced. -/
def hasExtensionId (handshake : Handshake) (id : UInt8) : Bool :=
  handshake.flags.hasId id

/-- The octets of a handshake. -/
def encode (handshake : Handshake) : Bytes :=
  UInt8.ofNat handshake.protocol.length ::
    (handshake.protocol ++ handshake.flags.data ++ handshake.infoHash.data ++
      handshake.peerId.data)

/-- The handshake that the octets after the length of the protocol name make up, if there are as
many as there have to be. -/
def ofBlock? (length : Nat) (block : Bytes) : Option Handshake :=
  let protocol := block.take length
  let rest := block.drop length
  if h : 0 < protocol.length ∧ protocol.length ≤ 255 then
    match Octets.ofBytes? 8 (rest.take 8), Octets.ofBytes? 20 ((rest.drop 8).take 20),
        Octets.ofBytes? 20 (rest.drop 28) with
    | some flags, some infoHash, some peerId =>
      some { protocol, flags, infoHash, peerId, protocol_pos := h.1, protocol_le := h.2 }
    | _, _, _ => none
  else none

/-- Reads a handshake. The protocol name may be any. -/
def read (source : Stream.Source) : Except PeerError Handshake × Stream.Source :=
  match source.readUInt8 with
  | (.error fault, rest) => (.error (.transfer fault), rest)
  | (.ok length, rest) =>
    if length = 0 then (.error .zeroProtocolLength, rest)
    else match rest.readBlock (length.toNat + tailLength) with
      | (.error fault, rest) => (.error (.transfer fault), rest)
      | (.ok block, rest) =>
        match ofBlock? length.toNat block with
        | some handshake => (.ok handshake, rest)
        | none => (.error (.transfer .earlyEnd), rest)

end Handshake

end Swarm.Wire
