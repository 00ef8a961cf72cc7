import Swarm.Command.Size
import Swarm.Torrent.Metainfo

/-!
# What a torrent holds, for a reader

## Main definitions

* `report`: the lines that describe a torrent
-/

namespace Swarm.Command

open Torrent (Content Metainfo)

/-- How many of the first pieces are shown. -/
def shownPieces : Nat := 3

/-- The pieces that are shown: the first few, and the last if there are more. -/
def piecesToShow (count : Nat) : List Nat :=
  List.range (min count shownPieces) ++ if shownPieces < count then [count - 1] else []

/-- The line for a piece; there is none for a piece whose digest cannot be told. -/
def pieceLine? (metainfo : Metainfo) (index : Nat) : Option String :=
  let label := if shownPieces ≤ index then s!"Last Piece ({index})" else s!"Piece {index}"
  (metainfo.pieceHash index).toOption.map fun hash =>
    label ++ " Hash: " ++ Hex.ofBytes hash ++ " (Length: " ++
      sizeText (metainfo.pieceLength index).toInt ++ ")"

/-- The lines for the files of a torrent, the first of which is counted as `number`. -/
def fileLines (number : Nat) : List Torrent.FileEntry → List String
  | [] => []
  | file :: rest =>
    let path := "/".intercalate file.path
    s!"  File {number}: {path} ({file.length.toInt} bytes)" :: fileLines (number + 1) rest

/-- The lines for the content of a torrent. -/
def contentLines (name : String) : Content → List String
  | .single length => [s!"Single File Mode: {name} ({length.toInt} bytes)"]
  | .multiple files => s!"Multiple Files Mode: {files.length} files" :: fileLines 1 files

/-- The lines that describe a torrent. -/
def report (metainfo : Metainfo) : List String :=
  let info := metainfo.info
  ["Torrent Name: " ++ info.name,
    "Announce URL: " ++ metainfo.announce,
    s!"Piece Length: {info.pieceLength.toInt} bytes"] ++
  contentLines info.name info.content ++
  ["Info Hash: " ++ metainfo.infoHash.hex,
    s!"Number of Pieces: {metainfo.numPieces}",
    "Total Size: " ++ sizeText metainfo.totalLength.toInt] ++
  (piecesToShow metainfo.numPieces).filterMap (pieceLine? metainfo)

end Swarm.Command
