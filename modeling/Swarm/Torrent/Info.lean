import Swarm.Bencode.Value
import Swarm.Torrent.Error

/-!
# The info dictionary

The info dictionary describes the content of a torrent: a name, the length of a piece, the
digests of the pieces, and either the length of a single file or a list of files.

Reading it takes the fields out of the dictionary one after the other, and reports the first
fault. Writing it gives the dictionary of the fields that are modelled, and leaves a zero privacy
flag out.

## Main definitions

* `FileEntry`, `Content`, `Info`: the description of the content
* `take`, `takeInt`, `takeText`: a field, taken out of the dictionary
* `Info.ofValue`, `Info.toValue`: from a bencode value and back
* `Content.totalLength`: the length of all files together, kept within a signed 64-bit word
-/

namespace Swarm.Torrent

open Bencode (Value)

/-- A file of a torrent of several files. -/
structure FileEntry where
  /-- The length in octets. -/
  length : Int64
  /-- The segments of the path, the last one the name of the file. -/
  path : List String
  deriving DecidableEq

/-- What a torrent holds. -/
inductive Content where
  | single (length : Int64)
  | multiple (files : List FileEntry)
  deriving DecidableEq

/-- The description of a torrent's content. -/
structure Info where
  /-- The name of the file, or of the directory that holds the files. -/
  name : String
  /-- The length of every piece but the last, in octets. -/
  pieceLength : Int64
  /-- The digests of the pieces, one after the other. -/
  pieces : Bytes
  /-- The file or files. -/
  content : Content
  /-- The privacy flag. -/
  privacy : Option Int64
  /-- The octets the dictionary was written with, if it was read from octets. -/
  raw : Option Bytes
  deriving DecidableEq

/-- The text stored under a key, if there is one. -/
def textAt? (entries : List (Bytes × Value)) (key : String) : Option String :=
  (Dict.get? (Bytes.ofString key) entries).bind Value.asText?

/-- The integer stored under a key, if there is one. -/
def intAt? (entries : List (Bytes × Value)) (key : String) : Option Int64 :=
  (Dict.get? (Bytes.ofString key) entries).bind Value.asInt?

section Take

variable {m : Type → Type} [Monad m]

/-- What is stored under a key, which is taken out of the entries. -/
def take (key : String) : StateT (List (Bytes × Value)) m (Option Value) :=
  modifyGet fun entries =>
    (Dict.get? (Bytes.ofString key) entries, Dict.erase (Bytes.ofString key) entries)

/-- The text stored under a key, which is taken out, whatever it holds. -/
def takeText (key : String) : StateT (List (Bytes × Value)) m (Option String) := do
  return (← take key).bind Value.asText?

/-- The integer stored under a key, which is taken out, whatever it holds. -/
def takeInt (key : String) : StateT (List (Bytes × Value)) m (Option Int64) := do
  return (← take key).bind Value.asInt?

end Take

namespace FileEntry

/-- Takes the fields of a file out of a dictionary: a length that is not negative and a path that
is not empty. -/
def read : StateT (List (Bytes × Value)) Option FileEntry := do
  let some length := (← takeInt "length").filter (0 ≤ ·) | failure
  let some segments := (← take "path").bind Value.asList? | failure
  if segments.isEmpty then failure
  let some path := segments.mapM Value.asText? | failure
  return ⟨length, path⟩

/-- The fields of a file, if the value is a dictionary that has them. -/
def ofValue? (value : Value) : Option FileEntry :=
  value.asDict?.bind read.run'

/-- The dictionary of a file. -/
def toValue (file : FileEntry) : Value :=
  .dict [(Bytes.ofString "length", .int file.length),
    (Bytes.ofString "path", .list (file.path.map Value.text))]

/-- The files of a list of values, the first of which has this index. -/
def ofValues (index : Nat) : List Value → Except MetainfoError (List FileEntry)
  | [] => .ok []
  | value :: rest =>
    match ofValue? value with
    | none => .error (.invalidFileEntry index)
    | some file => (ofValues (index + 1) rest).map (file :: ·)

end FileEntry

/-- The greatest signed 64-bit integer. -/
def maxWord : Int := Int64.maxValue.toInt

/-- The least signed 64-bit integer. -/
def minWord : Int := Int64.minValue.toInt

/-- The sum of two words, kept within a signed 64-bit word. -/
def saturatingAdd (a b : Int64) : Int64 :=
  Int64.ofInt (max minWord (min maxWord (a.toInt + b.toInt)))

/-- The sum of two words, if it is a signed 64-bit word. -/
def checkedAdd? (a b : Int64) : Option Int64 :=
  let sum := a.toInt + b.toInt
  if minWord ≤ sum ∧ sum ≤ maxWord then some (Int64.ofInt sum) else none

/-- The exact sum of the lengths of files. -/
def exactLength (files : List FileEntry) : Int :=
  files.foldr (fun file total => file.length.toInt + total) 0

/-- The lengths of files added up from left to right, if each sum is a signed 64-bit word. -/
def checkedLength? (files : List FileEntry) : Option Int64 :=
  files.foldlM (fun total file => checkedAdd? total file.length) 0

namespace Content

/-- The length of the file, or of all files added up from left to right, each sum kept within a
signed 64-bit word. -/
def totalLength : Content → Int64
  | .single length => length
  | .multiple files => files.foldl (fun total file => saturatingAdd total file.length) 0

/-- The layout that two fields give: a length or a list of files, but not both. -/
def ofFields (length files : Option Value) : Except MetainfoError Content :=
  match length, files with
  | some (.int length), none =>
    if 0 ≤ length then .ok (.single length) else .error .missingLengthOrFiles
  | none, some (.list values) =>
    match FileEntry.ofValues 0 values with
    | .error fault => .error fault
    | .ok files =>
      match checkedLength? files with
      | none => .error .totalLengthOverflow
      | some _ => .ok (.multiple files)
  | _, _ => .error .missingLengthOrFiles

/-- Takes the fields of the layout out of an info dictionary. -/
def read : StateT (List (Bytes × Value)) (Except MetainfoError) Content := do
  ofFields (← take "length") (← take "files")

/-- The layout that the entries of an info dictionary give. -/
def ofEntries (entries : List (Bytes × Value)) : Except MetainfoError Content :=
  read.run' entries

/-- The entry of the info dictionary for the layout. -/
def toEntry : Content → Bytes × Value
  | .single length => (Bytes.ofString "length", .int length)
  | .multiple files => (Bytes.ofString "files", .list (files.map FileEntry.toValue))

end Content

namespace Info

/-- Takes the fields of the description out of an info dictionary. -/
def read : StateT (List (Bytes × Value)) (Except MetainfoError) Info := do
  let some pieceLength := (← takeInt "piece length").filter (0 < ·)
    | throw .missingOrInvalidPieceLength
  let some pieces := (← take "pieces").bind Value.asBytes? | throw .missingOrInvalidPieces
  let some name ← takeText "name" | throw .missingOrInvalidName
  let content ← Content.read
  return { name, pieceLength, pieces, content, privacy := ← takeInt "private", raw := none }

/-- The description that the entries of an info dictionary give. -/
def ofEntries (entries : List (Bytes × Value)) : Except MetainfoError Info :=
  read.run' entries

/-- The description that a value gives, if it is an info dictionary. -/
def ofValue : Value → Except MetainfoError Info
  | .dict entries => ofEntries entries
  | _ => .error .missingOrInvalidInfo

/-- The privacy flag as it is written: a zero flag is left out. -/
def privacyEntry (info : Info) : List (Bytes × Value) :=
  match info.privacy with
  | some flag => if flag = 0 then [] else [(Bytes.ofString "private", .int flag)]
  | none => []

/-- The info dictionary of the modelled fields. -/
def toValue (info : Info) : Value :=
  .ofEntries ([(Bytes.ofString "piece length", .int info.pieceLength),
    (Bytes.ofString "pieces", .bytes info.pieces),
    (Bytes.ofString "name", Value.text info.name),
    info.content.toEntry] ++ info.privacyEntry)

end Info

end Swarm.Torrent
