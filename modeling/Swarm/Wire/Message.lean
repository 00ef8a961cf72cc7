import Swarm.Bytes.BigEndian
import Swarm.Wire.Bitfield
import Swarm.Wire.Error

/-!
# Messages between peers

A message is an octet that tells its kind and a payload, which each kind reads in its own way.

## Main definitions

* `Message`: a kind and a payload
* `Message.haves`, `Message.request`, `Message.piece` and others: the messages with a payload
* `Message.asHave`, `Message.asRequest`, `Message.asPiece` and others: what a payload says
* `Message.encode`: the octets of a message, its length first
* `Message.text`: a line that describes a message
-/

namespace Swarm.Wire

/-- A message between peers. -/
structure Message where
  kind : MessageKind
  payload : Bytes
  deriving DecidableEq

/-- A block of a piece. -/
structure Block where
  /-- The piece. -/
  index : UInt32
  /-- How many octets of the piece stand before the block. -/
  start : UInt32
  /-- How many octets the block has. -/
  length : UInt32
  deriving DecidableEq

namespace Block

/-- The payload that names a block. -/
def payload (block : Block) : Bytes :=
  BigEndian.ofUInt32 block.index ++ BigEndian.ofUInt32 block.start ++
    BigEndian.ofUInt32 block.length

/-- The block that a payload names. -/
def ofPayload? : Bytes → Option Block
  | [a, b, c, d, e, f, g, h, i, j, k, l] =>
    some ⟨BigEndian.toUInt32 a b c d, BigEndian.toUInt32 e f g h, BigEndian.toUInt32 i j k l⟩
  | _ => none

end Block

namespace Message

/-- The message whose kind an octet tells. -/
def ofCode (code : UInt8) (payload : Bytes) : Except PeerError Message :=
  match MessageKind.ofCode? code with
  | some kind => .ok ⟨kind, payload⟩
  | none => .error (.unknownMessageId code)

/-- The sender will send no blocks. -/
def choke : Message := ⟨.choke, []⟩

/-- The sender will send blocks. -/
def unchoke : Message := ⟨.unchoke, []⟩

/-- The sender wants blocks. -/
def interested : Message := ⟨.interested, []⟩

/-- The sender wants no blocks. -/
def notInterested : Message := ⟨.notInterested, []⟩

/-- The sender has a piece. -/
def haves (index : UInt32) : Message :=
  ⟨.have, BigEndian.ofUInt32 index⟩

/-- The pieces the sender has. -/
def bitfield (field : Bitfield) : Message :=
  ⟨.bitfield, field.data⟩

/-- The sender asks for a block. -/
def request (block : Block) : Message :=
  ⟨.request, block.payload⟩

/-- The sender asks no longer for a block. -/
def cancel (block : Block) : Message :=
  ⟨.cancel, block.payload⟩

/-- The octets of a piece from an offset on. -/
def piece (index start : UInt32) (content : Bytes) : Message :=
  ⟨.piece, BigEndian.ofUInt32 index ++ BigEndian.ofUInt32 start ++ content⟩

/-- The port of the sender's node of the distributed table. -/
def port (number : UInt16) : Message :=
  ⟨.port, BigEndian.ofUInt16 number⟩

/-- The number that is sent before a message: its octets after that number, as far as the four
octets it is sent in tell. -/
def length (message : Message) : UInt32 :=
  1 + UInt32.ofNat message.payload.length

/-- The octets of a message. -/
def encode (message : Message) : Bytes :=
  BigEndian.ofUInt32 message.length ++ message.kind.code :: message.payload

/-- Fails unless the message is of a kind. -/
def expect (message : Message) (kind : MessageKind) : Except PeerError Unit :=
  if message.kind = kind then .ok () else .error (.unexpectedMessage kind message.kind)

/-- The piece index that a payload is. -/
def havePayload (message : Message) : Except PeerError UInt32 :=
  match message.payload with
  | [a, b, c, d] => .ok (BigEndian.toUInt32 a b c d)
  | payload => .error (.invalidHavePayload payload.length)

/-- The piece the sender says it has. -/
def asHave (message : Message) : Except PeerError UInt32 :=
  (message.expect .have).bind fun _ => message.havePayload

/-- The pieces the sender says it has. -/
def asBitfield (message : Message) : Except PeerError Bitfield :=
  (message.expect .bitfield).map fun _ => .ofBytes message.payload

/-- The block that a payload names. -/
def blockPayload (message : Message) : Except PeerError Block :=
  match Block.ofPayload? message.payload with
  | some block => .ok block
  | none => .error (.invalidRequestPayload message.payload.length)

/-- The block the sender asks for. -/
def asRequest (message : Message) : Except PeerError Block :=
  (message.expect .request).bind fun _ => message.blockPayload

/-- The block the sender asks for no longer. -/
def asCancel (message : Message) : Except PeerError Block :=
  (message.expect .cancel).bind fun _ => message.blockPayload

/-- The index, the offset and the octets that a payload holds. -/
def piecePayload? : Bytes → Option (UInt32 × UInt32 × Bytes)
  | a :: b :: c :: d :: e :: f :: g :: h :: content =>
    some (BigEndian.toUInt32 a b c d, BigEndian.toUInt32 e f g h, content)
  | _ => none

/-- The offset and the octets that a payload holds, which has to be of the piece asked for. -/
def piecePayload (message : Message) (expected : UInt32) : Except PeerError (UInt32 × Bytes) :=
  match piecePayload? message.payload with
  | none => .error (.invalidPiecePayload message.payload.length)
  | some (index, start, content) =>
    if index = expected then .ok (start, content)
    else .error (.unexpectedPieceIndex expected index)

/-- The offset and the octets of a block, which has to be of the piece asked for. -/
def asPiece (message : Message) (expected : UInt32) : Except PeerError (UInt32 × Bytes) :=
  (message.expect .piece).bind fun _ => message.piecePayload expected

/-- The port that a payload is. -/
def portPayload (message : Message) : Except PeerError UInt16 :=
  match message.payload with
  | [high, low] => .ok (BigEndian.toUInt16 high low)
  | payload => .error (.invalidPortPayload payload.length)

/-- The port of the sender's node of the distributed table. -/
def asPort (message : Message) : Except PeerError UInt16 :=
  (message.expect .port).bind fun _ => message.portPayload

/-- The line for a message whose payload says nothing: its kind and the size of its payload. -/
def plainText (message : Message) : String :=
  if message.payload.isEmpty then message.kind.name
  else s!"{message.kind.name}[{message.payload.length} bytes]"

/-- A line that describes a message. -/
def text (message : Message) : String :=
  match message.kind with
  | .have =>
    match message.asHave with
    | .ok index => s!"Have[{index.toNat}]"
    | .error _ => message.plainText
  | .bitfield => s!"Bitfield[{message.payload.length} bytes]"
  | .request | .cancel =>
    match message.blockPayload with
    | .ok block =>
      s!"{message.kind.name}[{block.index.toNat}:{block.start.toNat}:{block.length.toNat}]"
    | .error _ => message.plainText
  | .piece =>
    match piecePayload? message.payload with
    | some (index, start, content) =>
      s!"Piece[{index.toNat}:{start.toNat}:{content.length} bytes]"
    | none => message.plainText
  | .port =>
    match message.asPort with
    | .ok number => s!"Port[{number.toNat}]"
    | .error _ => message.plainText
  | _ => message.plainText

end Message

end Swarm.Wire
