import Swarm.Proofs.Bytes.Chunks
import Swarm.Torrent.Metainfo

/-!
# The digests of pieces

The digest of a piece is looked up by its place among the digests, or they are gone through one
after the other. Both find the same where the digests are a whole number of digests. Where they
are not, no digest is looked up at all, but all complete ones are gone through.

## Main definitions

* `word?`, `slice?`: numbers and ranges that a machine may not have
* `Metainfo.pieceHash?`: a digest looked up by a machine, with nothing where a step has no result

## Main results

* `Info.pieceHashes_eq`: the complete digests, by their places
* `Metainfo.pieceHash_eq_getElem?`: the two ways agree
* `Metainfo.pieceHash?_eq_some`: every step of a lookup has a result
* `Metainfo.pieceHash_agrees_pieceHashes`: both ways, whatever the digests are
-/

namespace Swarm.Torrent

/-! ## Steps that may have no result -/

/-- A number, unless it is greater than the words of a machine. -/
def word? (limit n : Nat) : Option Nat :=
  if n ≤ limit then some n else none

/-- The octets from one place up to another, if there is such a range. -/
def slice? (data : Bytes) (start stop : Nat) : Option Bytes :=
  if start ≤ stop ∧ stop ≤ data.length then some ((data.drop start).take (stop - start)) else none

namespace Info

/-- The complete digests, by their places. -/
theorem pieceHashes_eq (info : Info) :
    info.pieceHashes = (List.range (info.pieces.length / hashLength)).map
      (Bytes.piece hashLength info.pieces) :=
  Bytes.filter_chunks (hashLength - 1) info.pieces

theorem flatten_pieceHashes (info : Info) :
    info.pieceHashes.flatten =
      info.pieces.take (info.pieces.length / hashLength * hashLength) := by
  rw [pieceHashes_eq, Bytes.flatten_pieces]

theorem length_of_mem_pieceHashes {info : Info} {hash : Bytes} (h : hash ∈ info.pieceHashes) :
    hash.length = hashLength := by
  rw [pieceHashes_eq] at h
  obtain ⟨index, hindex, rfl⟩ := List.mem_map.mp h
  exact Bytes.length_piece (by decide) (List.mem_range.mp hindex)

end Info

namespace Metainfo

/-- The digest of a piece as a machine looks it up whose words go up to a limit, with nothing
where a place is no word, a range is past the end or a digest has another length. -/
def pieceHash? (limit : Nat) (metainfo : Metainfo) (index : Nat) :
    Option (Except MetainfoError Bytes) :=
  let pieces := metainfo.info.pieces
  if pieces.length % hashLength ≠ 0 then some (.error (.corruptPieceList pieces.length))
  else if metainfo.numPieces ≤ index then
    some (.error (.pieceIndexOutOfRange index metainfo.numPieces))
  else
    (word? limit (index * hashLength)).bind fun start =>
      (word? limit (start + hashLength)).bind fun stop =>
        (slice? pieces start stop).bind fun hash =>
          if hash.length = hashLength then some (.ok hash) else none

variable {metainfo : Metainfo} {index : Nat}

theorem length_pieceHashes (metainfo : Metainfo) :
    metainfo.info.pieceHashes.length = metainfo.numPieces := by
  rw [Info.pieceHashes_eq, List.length_map, List.length_range, numPieces]

theorem pieceHash_of_corrupt (h : ¬hashLength ∣ metainfo.info.pieces.length) (index : Nat) :
    metainfo.pieceHash index = .error (.corruptPieceList metainfo.info.pieces.length) :=
  if_pos fun hzero => h (Nat.dvd_of_mod_eq_zero hzero)

section Whole

variable (h : hashLength ∣ metainfo.info.pieces.length)
include h

theorem pieceHash_of_le (hindex : metainfo.numPieces ≤ index) :
    metainfo.pieceHash index = .error (.pieceIndexOutOfRange index metainfo.numPieces) := by
  rw [pieceHash, if_neg fun hne => hne (Nat.mod_eq_zero_of_dvd h), if_pos hindex]

theorem pieceHash_of_lt (hindex : index < metainfo.numPieces) :
    metainfo.pieceHash index = .ok (Bytes.piece hashLength metainfo.info.pieces index) := by
  rw [pieceHash, if_neg fun hne => hne (Nat.mod_eq_zero_of_dvd h),
    if_neg (Nat.not_le.mpr hindex)]
  rfl

/-- **The two ways agree**: a digest that is looked up is the one at this place of all, and past
them there is none. -/
theorem pieceHash_eq_getElem? (index : Nat) :
    metainfo.pieceHash index = metainfo.info.pieceHashes[index]?.elim
      (.error (.pieceIndexOutOfRange index metainfo.numPieces)) .ok := by
  by_cases hindex : index < metainfo.numPieces
  · have hrange : (List.range metainfo.numPieces)[index]? = some index :=
      List.getElem?_range hindex
    rw [pieceHash_of_lt h hindex, Info.pieceHashes_eq, List.getElem?_map]
    rw [numPieces] at hrange
    rw [hrange]
    rfl
  · have hpast : metainfo.info.pieceHashes[index]? = none := by
      rw [List.getElem?_eq_none_iff, length_pieceHashes]
      exact Nat.not_lt.mp hindex
    rw [pieceHash_of_le h (Nat.not_lt.mp hindex), hpast]
    rfl

/-- Looked up one after the other, the digests are all that are gone through. -/
theorem map_pieceHash_range :
    (List.range metainfo.numPieces).map metainfo.pieceHash =
      metainfo.info.pieceHashes.map .ok := by
  rw [Info.pieceHashes_eq, List.map_map]
  apply List.map_congr_left
  intro index hindex
  exact pieceHash_of_lt h (List.mem_range.mp hindex)

theorem flatten_pieceHashes_of_dvd :
    metainfo.info.pieceHashes.flatten = metainfo.info.pieces := by
  rw [Info.flatten_pieceHashes, Nat.div_mul_cancel h, List.take_length]

end Whole

/-- **Every step of a lookup has a result** on a machine that holds the digests: places of digests
lie among them. -/
theorem pieceHash?_eq_some {limit : Nat} (h : metainfo.info.pieces.length ≤ limit) (index : Nat) :
    metainfo.pieceHash? limit index = some (metainfo.pieceHash index) := by
  rw [pieceHash?, pieceHash]
  split
  · rfl
  · split
    · rfl
    · rename_i hindex
      have hlt : index < metainfo.info.pieces.length / hashLength := Nat.not_le.mp hindex
      -- The piece ends within the digests, whose length is a word.
      have hend : index * hashLength + hashLength ≤ metainfo.info.pieces.length := by
        have hplaces := (Nat.le_div_iff_mul_le (by decide)).mp (Nat.succ_le_of_lt hlt)
        rwa [Nat.succ_mul] at hplaces
      have hstart : word? limit (index * hashLength) = some (index * hashLength) :=
        if_pos (by omega)
      have hstop : word? limit (index * hashLength + hashLength) =
          some (index * hashLength + hashLength) :=
        if_pos (by omega)
      have hslice : slice? metainfo.info.pieces (index * hashLength)
          (index * hashLength + hashLength) =
            some (Bytes.piece hashLength metainfo.info.pieces index) := by
        rw [slice?, if_pos ⟨Nat.le_add_right _ _, hend⟩, Nat.add_sub_cancel_left, Bytes.piece]
      rw [hstart, Option.bind_some, hstop, Option.bind_some, hslice, Option.bind_some,
        if_pos (Bytes.length_piece (by decide) hlt), Bytes.piece]

/-- **The digests of pieces, looked up and gone through**, whatever the digests are. As many as
there are pieces are gone through, each complete, and together they are the longest whole beginning
of the digests. If something is left over, every lookup fails for it. Otherwise a lookup finds the
one at this place of those gone through, or no such piece, and together they are all digests. On a
machine that holds the digests no step of a lookup is without a result. -/
theorem pieceHash_agrees_pieceHashes (metainfo : Metainfo) :
    (metainfo.info.pieceHashes.length = metainfo.numPieces ∧
      (∀ hash ∈ metainfo.info.pieceHashes, hash.length = hashLength) ∧
      Bytes.IsLongestWhole hashLength metainfo.info.pieces metainfo.info.pieceHashes.flatten) ∧
    (¬hashLength ∣ metainfo.info.pieces.length → ∀ index,
      metainfo.pieceHash index = .error (.corruptPieceList metainfo.info.pieces.length)) ∧
    (hashLength ∣ metainfo.info.pieces.length →
      (∀ index, metainfo.pieceHash index = metainfo.info.pieceHashes[index]?.elim
        (.error (.pieceIndexOutOfRange index metainfo.numPieces)) .ok) ∧
      (List.range metainfo.numPieces).map metainfo.pieceHash =
        metainfo.info.pieceHashes.map .ok ∧
      metainfo.info.pieceHashes.flatten = metainfo.info.pieces) ∧
    ∀ limit, metainfo.info.pieces.length ≤ limit → ∀ index,
      metainfo.pieceHash? limit index = some (metainfo.pieceHash index) := by
  refine ⟨⟨length_pieceHashes metainfo, fun _ => Info.length_of_mem_pieceHashes, ?_⟩,
    pieceHash_of_corrupt, fun h => ⟨pieceHash_eq_getElem? h, map_pieceHash_range h,
      flatten_pieceHashes_of_dvd h⟩, fun _ => pieceHash?_eq_some⟩
  rw [Info.flatten_pieceHashes]
  exact Bytes.isLongestWhole_take hashLength metainfo.info.pieces

/-- Two digests on a machine with words of 64 bits, and the same with an octet left over. -/
theorem pieceHash_agrees_pieceHashes_two :
    let torrent (pieces : Bytes) : Metainfo :=
      { announce := "t", announceList := none, creationDate := none, comment := none
        createdBy := none, encoding := none
        info :=
          { name := "n", pieceLength := 4, pieces, content := .single 6, privacy := none
            raw := none } }
    let digests : Bytes := List.replicate 20 1 ++ List.replicate 20 2
    hashLength ∣ digests.length ∧
    (torrent digests).pieceHash 1 = .ok (List.replicate 20 2) ∧
    digests.length ≤ 18446744073709551615 ∧
    (torrent digests).pieceHash? 18446744073709551615 922337203685477581 =
      some (.error (.pieceIndexOutOfRange 922337203685477581 2)) ∧
    ¬hashLength ∣ (digests ++ [3]).length ∧
    (torrent (digests ++ [3])).pieceHash 0 = .error (.corruptPieceList 41) := by
  intro torrent digests
  obtain ⟨-, -, hwhole, hsteps⟩ := pieceHash_agrees_pieceHashes (torrent digests)
  obtain ⟨-, hcorrupt, -, -⟩ := pieceHash_agrees_pieceHashes (torrent (digests ++ [3]))
  have hdvd : hashLength ∣ digests.length := by decide
  have hrest : ¬hashLength ∣ (digests ++ [3]).length := by decide
  have hlimit : digests.length ≤ 18446744073709551615 := by decide
  refine ⟨hdvd, ?_, hlimit, ?_, hrest, hcorrupt hrest 0⟩
  · rw [(hwhole hdvd).1]
    cbv
  · rw [hsteps _ hlimit]
    cbv

end Metainfo

end Swarm.Torrent
