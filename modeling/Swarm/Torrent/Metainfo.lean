import Swarm.Bencode.Decode
import Swarm.Digest.Sha1
import Swarm.Torrent.Info

/-!
# Torrent files

A torrent file names a tracker and describes the content. The torrent is known by the digest of
its info dictionary exactly as the file writes it, so keys that are not modelled count as well.

## Main definitions

* `Metainfo`: what a torrent file says
* `Metainfo.ofValue`, `Metainfo.parse`: from a bencode value, and from the octets of a file
* `Metainfo.infoHash`, `Metainfo.canonicalInfoHash`: the digest of the info dictionary as it was
  written, and as the library writes it
* `Metainfo.pieceHash`, `Metainfo.pieceLength`: the digest and the length of a piece
-/

namespace Swarm.Torrent

open Bencode (Value)

/-- The number of octets of a piece's digest. -/
def hashLength : Nat := 20

/-- What a torrent file says. -/
structure Metainfo where
  /-- The address of the tracker. -/
  announce : String
  /-- Tiers of further trackers. -/
  announceList : Option (List (List String))
  /-- When the torrent was made, in seconds since 1970. -/
  creationDate : Option Int64
  /-- A remark of its maker. -/
  comment : Option String
  /-- The program that made it. -/
  createdBy : Option String
  /-- The encoding of its texts. -/
  encoding : Option String
  /-- The description of the content. -/
  info : Info
  deriving DecidableEq

namespace Info

/-- The digests of the pieces; an incomplete last one is left out. -/
def pieceHashes (info : Info) : List Bytes :=
  (Bytes.chunks (hashLength - 1) info.pieces).filter (·.length == hashLength)

end Info

namespace Metainfo

/-- The tiers of trackers that a value gives: its lists, each with its texts. -/
def tiers? (value : Value) : Option (List (List String)) :=
  value.asList?.map fun tiers =>
    tiers.filterMap fun tier => tier.asList?.map (·.filterMap Value.asText?)

/-- Takes the fields of a torrent file out of a dictionary. An optional field of the wrong type
counts as absent. -/
def read : StateT (List (Bytes × Value)) (Except MetainfoError) Metainfo := do
  let some announce ← takeText "announce" | throw .missingOrInvalidAnnounce
  let some (.dict fields) ← take "info" | throw .missingOrInvalidInfo
  let info ← Info.ofValue (.dict fields)
  let announceList := (← take "announce-list").bind tiers?
  return {
    announce, announceList
    creationDate := ← takeInt "creation date"
    comment := ← takeText "comment"
    createdBy := ← takeText "created by"
    encoding := ← takeText "encoding"
    info }

/-- What a bencode value says as a torrent file. -/
def ofValue (value : Value) : Except MetainfoError Metainfo :=
  match value.asDict? with
  | none => .error .notADictionary
  | some entries => read.run' entries

/-- The same torrent with the octets its info dictionary was written with. -/
def withRaw (metainfo : Metainfo) (raw : Option Bytes) : Metainfo :=
  { metainfo with info := { metainfo.info with raw } }

/-- What the octets of a torrent file say. The octets of the info dictionary are kept. -/
def parse (data : Bytes) : Except MetainfoError Metainfo :=
  match Bencode.decode data with
  | .error fault => .error (.decode fault)
  | .ok (value, _) =>
    match ofValue value with
    | .error fault => .error fault
    | .ok metainfo =>
      match Bencode.valueSpan data (Bytes.ofString "info") with
      | .error fault => .error (.decode fault)
      | .ok span => .ok (metainfo.withRaw (span.map (·.raw)))

/-- What a file says, if there is one. -/
def ofFile (content : Option Bytes) : Except MetainfoError Metainfo :=
  match content with
  | none => .error .noSuchFile
  | some data => parse data

/-- The digest of the info dictionary as the library writes it. -/
def canonicalInfoHash (metainfo : Metainfo) : Octets 20 :=
  sha1 metainfo.info.toValue.encode

/-- The digest of the info dictionary as it was written; as the library writes it, if it was
not read from octets. -/
def infoHash (metainfo : Metainfo) : Octets 20 :=
  match metainfo.info.raw with
  | some raw => sha1 raw
  | none => metainfo.canonicalInfoHash

/-- The number of pieces. -/
def numPieces (metainfo : Metainfo) : Nat :=
  metainfo.info.pieces.length / hashLength

/-- The length of the content in octets. -/
def totalLength (metainfo : Metainfo) : Int64 :=
  metainfo.info.content.totalLength

/-- The digest of a piece. -/
def pieceHash (metainfo : Metainfo) (index : Nat) : Except MetainfoError Bytes :=
  let pieces := metainfo.info.pieces
  if pieces.length % hashLength ≠ 0 then .error (.corruptPieceList pieces.length)
  else if metainfo.numPieces ≤ index then
    .error (.pieceIndexOutOfRange index metainfo.numPieces)
  else .ok ((pieces.drop (index * hashLength)).take hashLength)

/-- The length of a piece: only the last can be shorter than the others, and there is nothing
past it. -/
def pieceLength (metainfo : Metainfo) (index : Nat) : Int64 :=
  if metainfo.numPieces ≤ index then 0
  else
    let remainder := metainfo.totalLength % metainfo.info.pieceLength
    if index + 1 = metainfo.numPieces ∧ remainder ≠ 0 then remainder
    else metainfo.info.pieceLength

end Metainfo

end Swarm.Torrent
