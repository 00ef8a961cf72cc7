import Swarm.Stream.Source
import Swarm.Wire.Message

/-!
# Frames

Messages travel in frames, each with its length in four octets before it. A frame of length zero
keeps the connection alive. A frame that is too long is refused before any more of it is read;
one of an unknown kind is read whole.

## Main definitions

* `Frame`: a message, or nothing
* `Frame.encode`: the octets of a frame
* `Frame.read`: a frame read from a connection
-/

namespace Swarm.Wire

/-- The greatest length of a frame that is accepted. -/
def maxFrameLength : Nat := 1024 * 1024

/-- What travels between peers after the handshake. -/
inductive Frame where
  | keepAlive
  | message (message : Message)
  deriving DecidableEq

namespace Frame

/-- The octets of a frame. -/
def encode : Frame → Bytes
  | .keepAlive => BigEndian.ofUInt32 0
  | .message m => m.encode

/-- A line that describes a frame. -/
def text : Frame → String
  | .keepAlive => "KeepAlive"
  | .message m => m.text

/-- Reads a frame. -/
def read (source : Stream.Source) : Except PeerError Frame × Stream.Source :=
  match source.readUInt32 with
  | (.error fault, rest) => (.error (.transfer fault), rest)
  | (.ok length, rest) =>
    -- The length is judged before anything behind it is read.
    if length = 0 then (.ok .keepAlive, rest)
    else if maxFrameLength < length.toNat then (.error (.messageTooLong length), rest)
    else match rest.readUInt8 with
      | (.error fault, rest) => (.error (.transfer fault), rest)
      | (.ok code, rest) =>
        match rest.readBlock (length.toNat - 1) with
        | (.error fault, rest) => (.error (.transfer fault), rest)
        -- The whole frame is gone even if no kind of message has its octet.
        | (.ok payload, rest) => ((Message.ofCode code payload).map .message, rest)

end Frame

end Swarm.Wire
