import Mathlib.Algebra.BigOperators.Group.Finset.Basic
import Mathlib.Algebra.BigOperators.Ring.Finset
import Mathlib.Data.Int.ModEq
import Mathlib.Data.Rat.Floor
import Swarm.Proofs.Torrent.TotalLength

/-!
# The lengths of pieces

A torrent tells the number of its pieces by their digests, and the length of its content by its
files. Nothing compares the two when it is read. Every piece but the last has the length that the
torrent tells, and the last has what is left of the content, a whole piece if nothing is left. So
the pieces make up the content just if there are as many as the content fills.

## Main definitions

* `checkedSub?`, `checkedRem?`: differences and remainders that may have no result
* `Metainfo.pieceLength?`: the length of a piece, with nothing where a step has no result

## Main results

* `Metainfo.pieceLength?_eq`: where a step has no result
* `Metainfo.toInt_pieceLength_last`: the length of the last piece
* `Metainfo.sum_pieceLength_eq_iff`: when the pieces make up the content
* `Metainfo.pieceLength_adds_up`: the lengths of the pieces of a torrent that is read
-/

namespace Swarm.Torrent

/-! ## Steps that may have no result -/

/-- The difference of two numbers, if it is not negative. -/
def checkedSub? (a b : Nat) : Option Nat :=
  if b ≤ a then some (a - b) else none

/-- The remainder of two words, unless the divisor is zero or the quotient is no word. -/
def checkedRem? (a b : Int64) : Option Int64 :=
  if b = 0 ∨ a = Int64.minValue ∧ b = -1 then none else some (a % b)

/-- A positive divisor leaves a remainder. -/
theorem not_noRemainder_of_pos {a b : Int64} (h : 0 < b) :
    ¬(b = 0 ∨ a = Int64.minValue ∧ b = -1) := by
  rintro (rfl | ⟨-, rfl⟩)
  · exact absurd h (by decide)
  · exact absurd h (by decide)

/-- A quotient rounded up lies less than one above the exact one. -/
theorem ceil_div_eq_iff {total length count : Int} (h : 0 < length) :
    ⌈(total : ℚ) / length⌉ = count ↔
      (count - 1) * length < total ∧ total ≤ count * length := by
  have hpos : (0 : ℚ) < length := by exact_mod_cast h
  rw [Int.ceil_eq_iff, lt_div_iff₀ hpos, div_le_iff₀ hpos]
  exact_mod_cast Iff.rfl

/-- Whole pieces and a last one are as long as the content just if this ends in the last one. -/
theorem whole_add_last_eq_iff {total length last : Int} (hlow : 1 ≤ last) (hhigh : last ≤ length)
    (hmod : last ≡ total [ZMOD length]) (count : Int) :
    count * length + last = total ↔ count * length < total ∧ total ≤ (count + 1) * length := by
  rw [Int.add_mul, Int.one_mul]
  constructor
  · intro hsum
    omega
  · rintro ⟨hmore, hless⟩
    -- What is left over or missing is a whole number of pieces, and less than one.
    have hdvd : length ∣ total - last - count * length := hmod.dvd.sub (Int.dvd_mul_left _ _)
    have habs : |total - last - count * length| < length := by
      rw [abs_lt]
      constructor <;> omega
    have hnothing := Int.eq_zero_of_abs_lt_dvd hdvd habs
    omega

namespace Metainfo

/-- The length of a piece, with nothing where a step on the way has no result. -/
def pieceLength? (metainfo : Metainfo) (index : Nat) : Option Int64 :=
  if metainfo.numPieces ≤ index then some 0
  else
    (checkedSub? metainfo.numPieces 1).bind fun last =>
      if index = last then
        (checkedRem? metainfo.totalLength metainfo.info.pieceLength).map fun remainder =>
          if remainder ≠ 0 then remainder else metainfo.info.pieceLength
      else some metainfo.info.pieceLength

variable {metainfo : Metainfo} {index : Nat}

theorem pieceLength_of_le (h : metainfo.numPieces ≤ index) : metainfo.pieceLength index = 0 :=
  if_pos h

theorem pieceLength_of_lt (h : index + 1 < metainfo.numPieces) :
    metainfo.pieceLength index = metainfo.info.pieceLength := by
  rw [pieceLength, if_neg (by omega)]
  exact if_neg fun hlast => h.ne hlast.1

theorem pieceLength_last (h : index + 1 = metainfo.numPieces) :
    metainfo.pieceLength index =
      if metainfo.totalLength % metainfo.info.pieceLength ≠ 0 then
        metainfo.totalLength % metainfo.info.pieceLength
      else metainfo.info.pieceLength := by
  rw [pieceLength, if_neg (by omega)]
  simp only [h, true_and]

/-- **A length has no result** just for the last piece, where the length of pieces is zero or its
quotient is no word. -/
theorem pieceLength?_eq (metainfo : Metainfo) (index : Nat) :
    metainfo.pieceLength? index =
      if index + 1 = metainfo.numPieces ∧ (metainfo.info.pieceLength = 0 ∨
          metainfo.totalLength = Int64.minValue ∧ metainfo.info.pieceLength = -1) then none
      else some (metainfo.pieceLength index) := by
  rw [pieceLength?]
  by_cases hpast : metainfo.numPieces ≤ index
  · rw [if_pos hpast, if_neg fun hnone => by omega, pieceLength_of_le hpast]
  · -- There is a last piece, so one can be taken from their number.
    have hsub : checkedSub? metainfo.numPieces 1 = some (metainfo.numPieces - 1) :=
      if_pos (by omega)
    rw [if_neg hpast, hsub, Option.bind_some]
    by_cases hlast : index + 1 = metainfo.numPieces
    · rw [if_pos (by omega), pieceLength_last hlast, checkedRem?]
      simp only [hlast, true_and]
      split <;> rfl
    · rw [if_neg (by omega), if_neg fun hnone => hlast hnone.1, pieceLength_of_lt (by omega)]

/-- All pieces together are whole pieces and the last one. -/
theorem sum_pieceLength_last (hlast : index + 1 = metainfo.numPieces) :
    ∑ i ∈ Finset.range metainfo.numPieces, (metainfo.pieceLength i).toInt =
      index * metainfo.info.pieceLength.toInt + (metainfo.pieceLength index).toInt := by
  have hwhole : ∀ i ∈ Finset.range index, (metainfo.pieceLength i).toInt =
      metainfo.info.pieceLength.toInt := by
    intro i hi
    rw [pieceLength_of_lt]
    rw [← hlast]
    exact Nat.succ_lt_succ (Finset.mem_range.mp hi)
  rw [← hlast, Finset.sum_range_succ, Finset.sum_congr rfl hwhole, Finset.sum_const,
    Finset.card_range, nsmul_eq_mul]

section Valid

variable (h : metainfo.info.Valid)
include h

theorem pieceLength?_eq_some (index : Nat) :
    metainfo.pieceLength? index = some (metainfo.pieceLength index) := by
  rw [pieceLength?_eq, if_neg fun hnone => not_noRemainder_of_pos h.1 hnone.2]

theorem info_pieceLength_pos : 0 < metainfo.info.pieceLength.toInt := by
  simpa using Int64.lt_iff_toInt_lt.mp h.1

theorem totalLength_nonneg : 0 ≤ metainfo.totalLength.toInt := by
  rw [totalLength, Content.toInt_totalLength_of_valid h.2]
  exact Content.exactLength_nonneg_of_valid h.2

/-- The last piece is what is left of the content, or a whole piece. -/
theorem toInt_pieceLength_last (hlast : index + 1 = metainfo.numPieces) :
    (metainfo.pieceLength index).toInt =
      if metainfo.totalLength.toInt % metainfo.info.pieceLength.toInt = 0 then
        metainfo.info.pieceLength.toInt
      else metainfo.totalLength.toInt % metainfo.info.pieceLength.toInt := by
  -- A remainder of words takes the sign of the content's length, which is not negative.
  have hrem : (metainfo.totalLength % metainfo.info.pieceLength).toInt =
      metainfo.totalLength.toInt % metainfo.info.pieceLength.toInt := by
    rw [Int64.toInt_mod, Int.tmod_eq_emod_of_nonneg (totalLength_nonneg h)]
  have hzero : metainfo.totalLength % metainfo.info.pieceLength = 0 ↔
      metainfo.totalLength.toInt % metainfo.info.pieceLength.toInt = 0 := by
    rw [← Int64.toInt_inj, hrem, Int64.toInt_zero]
  rw [pieceLength_last hlast]
  simp only [ne_eq, hzero, ite_not, apply_ite Int64.toInt, hrem]

theorem pieceLength_last_bounds (hlast : index + 1 = metainfo.numPieces) :
    1 ≤ (metainfo.pieceLength index).toInt ∧
    (metainfo.pieceLength index).toInt ≤ metainfo.info.pieceLength.toInt := by
  have hpos := info_pieceLength_pos h
  have hlow := Int.emod_nonneg metainfo.totalLength.toInt hpos.ne'
  have hhigh := Int.emod_lt_of_pos metainfo.totalLength.toInt hpos
  rw [toInt_pieceLength_last h hlast]
  split <;> omega

theorem pieceLength_last_modEq (hlast : index + 1 = metainfo.numPieces) :
    (metainfo.pieceLength index).toInt ≡ metainfo.totalLength.toInt
      [ZMOD metainfo.info.pieceLength.toInt] := by
  rw [toInt_pieceLength_last h hlast]
  split
  · rename_i hwhole
    rw [Int.ModEq, Int.emod_self, hwhole]
  · exact Int.mod_modEq _ _

/-- **The pieces make up the content** just if there are as many as it fills. -/
theorem sum_pieceLength_eq_iff :
    ∑ i ∈ Finset.range metainfo.numPieces, (metainfo.pieceLength i).toInt =
        metainfo.totalLength.toInt ↔
      (metainfo.numPieces : Int) =
        ⌈(metainfo.totalLength.toInt : ℚ) / metainfo.info.pieceLength.toInt⌉ := by
  have hpos := info_pieceLength_pos h
  have htotal := totalLength_nonneg h
  rw [eq_comm (b := Int.ceil _), ceil_div_eq_iff hpos]
  rcases Nat.eq_zero_or_eq_succ_pred metainfo.numPieces with hnone | hsucc
  · -- Without pieces there is no content, as no length is negative.
    rw [hnone, Finset.range_zero, Finset.sum_empty]
    constructor
    · intro hzero
      rw [← hzero]
      exact ⟨by simpa using hpos, by simp⟩
    · rintro ⟨-, hle⟩
      rw [Int.natCast_zero, Int.zero_mul] at hle
      exact Int.le_antisymm htotal hle
  · have hlast : metainfo.numPieces.pred + 1 = metainfo.numPieces := hsucc.symm
    have hcount : (metainfo.numPieces : Int) = metainfo.numPieces.pred + 1 :=
      congrArg Nat.cast hsucc
    -- The last piece decides: it agrees with the content but for whole pieces.
    obtain ⟨hlow, hhigh⟩ := pieceLength_last_bounds h hlast
    rw [sum_pieceLength_last hlast, hcount, Int.add_sub_cancel]
    exact whole_add_last_eq_iff hlow hhigh (pieceLength_last_modEq h hlast) _

end Valid

/-- **The lengths of the pieces** of a torrent that is read. Each is computed without a step that
has no result. All pieces but the last are whole, the last has from one octet to a whole piece and
leaves nothing of the content but whole pieces, and past it there is nothing. Together they make
up the content just if there are as many pieces as it fills, the last one perhaps in part. -/
theorem pieceLength_adds_up (h : metainfo.IsRead) :
    (∀ index, metainfo.pieceLength? index = some (metainfo.pieceLength index)) ∧
    (∀ index, index + 1 < metainfo.numPieces →
      metainfo.pieceLength index = metainfo.info.pieceLength) ∧
    (∀ index, index + 1 = metainfo.numPieces →
      1 ≤ (metainfo.pieceLength index).toInt ∧
      (metainfo.pieceLength index).toInt ≤ metainfo.info.pieceLength.toInt ∧
      (metainfo.pieceLength index).toInt ≡ metainfo.totalLength.toInt
        [ZMOD metainfo.info.pieceLength.toInt]) ∧
    (∀ index, metainfo.numPieces ≤ index → metainfo.pieceLength index = 0) ∧
    (∑ index ∈ Finset.range metainfo.numPieces, (metainfo.pieceLength index).toInt =
        metainfo.totalLength.toInt ↔
      (metainfo.numPieces : Int) =
        ⌈(metainfo.totalLength.toInt : ℚ) / metainfo.info.pieceLength.toInt⌉) := by
  have hvalid := h.valid
  refine ⟨pieceLength?_eq_some hvalid, fun _ => pieceLength_of_lt, fun index hlast => ?_,
    fun _ => pieceLength_of_le, sum_pieceLength_eq_iff hvalid⟩
  obtain ⟨hlow, hhigh⟩ := pieceLength_last_bounds hvalid hlast
  exact ⟨hlow, hhigh, pieceLength_last_modEq hvalid hlast⟩

/-- A content that fills one piece and half of another. -/
theorem pieceLength_adds_up_half :
    let metainfo := plain "t"
      { name := "n", pieceLength := 4
        pieces := Bytes.ofString "0123456789012345678901234567890123456789"
        content := .single 6, privacy := none
        raw := some (Bytes.ofString ("d6:lengthi6e4:name1:n12:piece lengthi4e" ++
          "6:pieces40:0123456789012345678901234567890123456789e")) }
    parse (Bytes.ofString ("d8:announce1:t4:infod6:lengthi6e4:name1:n12:piece lengthi4e" ++
      "6:pieces40:0123456789012345678901234567890123456789ee")) = .ok metainfo ∧
    metainfo.pieceLength? 1 = some 2 ∧ metainfo.pieceLength 0 = 4 ∧
    metainfo.pieceLength 2 = 0 ∧
    ∑ index ∈ Finset.range metainfo.numPieces, (metainfo.pieceLength index).toInt =
      metainfo.totalLength.toInt := by
  intro metainfo
  have hparse : parse (Bytes.ofString
      ("d8:announce1:t4:infod6:lengthi6e4:name1:n12:piece lengthi4e" ++
        "6:pieces40:0123456789012345678901234567890123456789ee")) = .ok metainfo := by
    decide +kernel
  obtain ⟨hsteps, hwhole, -, hpast, hsum⟩ := pieceLength_adds_up (.parse hparse)
  have hcount : metainfo.numPieces = 2 := by decide
  refine ⟨hparse, ?_, hwhole 0 (by rw [hcount]; decide), hpast 2 hcount.le, ?_⟩
  · rw [hsteps]
    decide
  · rw [hsum, eq_comm, ceil_div_eq_iff (by decide), hcount]
    decide

end Metainfo

end Swarm.Torrent
