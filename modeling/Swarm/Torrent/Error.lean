import Swarm.Bencode.Error

/-!
# Why a torrent cannot be read

## Main definitions

* `MetainfoError`: the faults of a torrent file and of a lookup in it
* `MetainfoError.message`: the text that reports a fault
-/

namespace Swarm.Torrent

/-- Why a torrent file is not accepted, or a lookup in it fails. -/
inductive MetainfoError where
  /-- There is no such file. -/
  | noSuchFile
  /-- The file does not start with a bencode value. -/
  | decode (fault : Bencode.DecodeError)
  /-- The value is no dictionary. -/
  | notADictionary
  /-- There is no tracker address that is text. -/
  | missingOrInvalidAnnounce
  /-- There is no info dictionary. -/
  | missingOrInvalidInfo
  /-- There is no positive piece length. -/
  | missingOrInvalidPieceLength
  /-- There is no string of piece digests. -/
  | missingOrInvalidPieces
  /-- There is no name that is text. -/
  | missingOrInvalidName
  /-- There is not exactly one well-typed layout of the content. -/
  | missingLengthOrFiles
  /-- The file entry of this index has no length or no path. -/
  | invalidFileEntry (index : Nat)
  /-- The piece digests are not a whole number of digests. -/
  | corruptPieceList (length : Nat)
  /-- The lengths of the files add up to more than a signed 64-bit word holds. -/
  | totalLengthOverflow
  /-- There is no piece of this index. -/
  | pieceIndexOutOfRange (index total : Nat)
  deriving DecidableEq

/-- The text that reports a fault. -/
def MetainfoError.message : MetainfoError → String
  | .noSuchFile => "unable to read metainfo file: No such file or directory (os error 2)"
  | .decode fault => fault.message
  | .notADictionary => "torrent file is not a dictionary"
  | .missingOrInvalidAnnounce => "missing or invalid announce URL"
  | .missingOrInvalidInfo => "missing or invalid info dictionary"
  | .missingOrInvalidPieceLength => "missing or invalid piece length"
  | .missingOrInvalidPieces => "missing or invalid pieces"
  | .missingOrInvalidName => "missing or invalid name"
  | .missingLengthOrFiles => "torrent must have exactly one of length or files"
  | .invalidFileEntry index => s!"missing or invalid length or path in file entry {index}"
  | .corruptPieceList length => s!"pieces length is not a multiple of 20: {length}"
  | .totalLengthOverflow => "total length of files overflows"
  | .pieceIndexOutOfRange index total => s!"piece index out of range: {index} (total: {total})"

end Swarm.Torrent
