import Swarm.Bytes.Octets
import Swarm.Stream.Fault
import Swarm.Wire.Duration
import Swarm.Wire.MessageKind

/-!
# Why talking to a peer fails

## Main definitions

* `PeerError`: the faults
* `PeerError.message`: the text that reports a fault
-/

namespace Swarm.Wire

/-- Why talking to a peer fails. -/
inductive PeerError where
  /-- The transfer failed. -/
  | transfer (fault : Stream.Fault)
  /-- The time given was over. -/
  | timeout (limit : Duration)
  /-- A handshake names no protocol. -/
  | zeroProtocolLength
  /-- The name of a protocol does not fit its length octet. -/
  | protocolStringTooLong (length : Nat)
  /-- The peer speaks of another torrent. -/
  | infoHashMismatch (expected actual : Octets 20)
  /-- No kind of message has this octet. -/
  | unknownMessageId (code : UInt8)
  /-- A message is longer than is accepted. -/
  | messageTooLong (length : UInt32)
  /-- A message is of another kind. -/
  | unexpectedMessage (expected actual : MessageKind)
  /-- The payload is no piece index. -/
  | invalidHavePayload (length : Nat)
  /-- The payload names no block. -/
  | invalidRequestPayload (length : Nat)
  /-- The payload has no room for the index and the offset of a block. -/
  | invalidPiecePayload (length : Nat)
  /-- The payload is no port. -/
  | invalidPortPayload (length : Nat)
  /-- A block is of another piece. -/
  | unexpectedPieceIndex (expected actual : UInt32)
  deriving DecidableEq

/-- The text that reports a fault. -/
def PeerError.message : PeerError → String
  | .transfer fault => fault.message
  | .timeout limit => "timed out after " ++ limit.text
  | .zeroProtocolLength => "protocol string length is 0"
  | .protocolStringTooLong length => s!"protocol string is {length} bytes, longer than 255"
  | .infoHashMismatch expected actual =>
    "Info hash mismatch: us=" ++ expected.hex ++ ", peer=" ++ actual.hex
  | .unknownMessageId code => s!"unknown message id {code.toNat}"
  | .messageTooLong length => s!"message length {length.toNat} exceeds limit"
  | .unexpectedMessage expected actual =>
    "expected " ++ expected.name ++ " message, got " ++ actual.name
  | .invalidHavePayload length => s!"have payload is {length} bytes, expected 4"
  | .invalidRequestPayload length => s!"request payload is {length} bytes, expected 12"
  | .invalidPiecePayload length => s!"piece payload is {length} bytes, expected at least 8"
  | .invalidPortPayload length => s!"port payload is {length} bytes, expected 2"
  | .unexpectedPieceIndex expected actual =>
    s!"expected piece index {expected.toNat}, got {actual.toNat}"

end Swarm.Wire
