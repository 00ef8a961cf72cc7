import Swarm.Proofs.Bytes.Bits
import Swarm.Wire.Bitfield

/-!
# A row of bits is a set of pieces

A row of octets has room for eight pieces in each of them, and its length never changes. Asking and
adding find the octet and the bit of a piece in the same way, so adding a piece is seen by asking
for that piece and for no other, and a piece without room is never seen. A row is given by its
length and the pieces in it, and so a run of additions is given by the pieces that it adds.

## Main definitions

* `Bitfield.setAll`: several pieces added one after the other

## Main results

* `Bitfield.eq_of_has_eq`: a row is given by its length and the pieces in it
* `Bitfield.has_set`, `Bitfield.has_setAll`: the pieces in a row after one and after any additions
* `Bitfield.setAll_as_set`: a run of additions, as a set of pieces and as octets
-/

namespace Swarm.Wire.Bitfield

open Swarm.Bytes (IsMask)

variable {field : Bitfield} {byte : UInt8} {index place : Nat}

/-- The same row with several pieces added, one after the other. -/
def setAll (field : Bitfield) (pieces : List Nat) : Bitfield :=
  pieces.foldl set field

/-! ## Pieces and bits -/

theorem isMask_mask (index : Nat) : IsMask (mask index) (7 - index % 8) :=
  Bytes.isMask_shiftLeft _ (by omega)

/-- Where there is an octet for a piece, asking for the piece is asking for its bit. -/
theorem has_of_getElem? (h : field.data[index / 8]? = some byte) :
    field.has index = byte.toNat.testBit (7 - index % 8) := by
  simp only [has, h, (isMask_mask index).and_ne_zero]

/-- A piece without room is not in the set. -/
theorem has_of_le (h : 8 * field.data.length ≤ index) : field.has index = false := by
  have hnone : field.data[index / 8]? = none := by
    apply List.getElem?_eq_none
    omega
  simp only [has, hnone]

/-- The bits of an octet are those of the eight pieces it has room for, the first piece in the most
significant bit. -/
theorem testBit_of_getElem? (h : field.data[place]? = some byte) {bit : Nat} (hbit : bit < 8) :
    byte.toNat.testBit (7 - bit) = field.has (8 * place + bit) := by
  have hplace : (8 * place + bit) / 8 = place := by omega
  have hmod : (8 * place + bit) % 8 = bit := by omega
  rw [← hplace] at h
  rw [has_of_getElem? h, hmod]

/-- A row is given by its length and the pieces in it. -/
theorem eq_of_has_eq {other : Bitfield} (hlength : field.data.length = other.data.length)
    (h : ∀ index, field.has index = other.has index) : field = other := by
  suffices hdata : field.data = other.data by
    cases field
    cases other
    exact congrArg mk hdata
  apply List.ext_getElem?
  intro place
  rcases Nat.lt_or_ge place field.data.length with hlt | hge
  · have hmine := List.getElem?_eq_getElem hlt
    have htheirs := List.getElem?_eq_getElem (hlength ▸ hlt)
    rw [hmine, htheirs, Option.some.injEq]
    apply Bytes.eq_of_testBit_eq
    intro bit hbit
    -- the bit at a place is that of the piece counted from the other end
    have hcount : bit = 7 - (7 - bit) := by omega
    rw [hcount, testBit_of_getElem? hmine (by omega), testBit_of_getElem? htheirs (by omega), h]
  · rw [List.getElem?_eq_none hge, List.getElem?_eq_none (hlength ▸ hge)]

/-! ## Adding pieces -/

theorem length_set (field : Bitfield) (index : Nat) :
    (field.set index).data.length = field.data.length :=
  List.length_modify ..

/-- **Adding a piece** is seen by asking for that piece, if there is room for it, and by asking for
no other. -/
theorem has_set (field : Bitfield) (index other : Nat) :
    (field.set index).has other =
      (field.has other || decide (index = other ∧ other < 8 * field.data.length)) := by
  rcases Nat.lt_or_ge other (8 * field.data.length) with hlt | hge
  · have hplace : other / 8 < field.data.length := by omega
    have hbyte := List.getElem?_eq_getElem hplace
    have hset : (field.set index).data[other / 8]? =
        some (if index / 8 = other / 8 then field.data[other / 8] ||| mask index
          else field.data[other / 8]) := by
      rw [set, List.getElem?_modify, hbyte]
      rfl
    rw [has_of_getElem? hset, has_of_getElem? hbyte]
    by_cases hsame : index / 8 = other / 8
    · have hbit : 7 - index % 8 = 7 - other % 8 ↔ index = other := by omega
      simp only [if_pos hsame, (isMask_mask index).testBit_or, hbit, hlt, and_true]
    · have hne : index ≠ other := fun h => hsame (by rw [h])
      simp only [if_neg hsame, hne, false_and, decide_false, Bool.or_false]
  · rw [has_of_le hge, has_of_le (by rwa [length_set])]
    simp only [Nat.not_lt.mpr hge, and_false, decide_false, Bool.or_false]

theorem length_setAll (field : Bitfield) (pieces : List Nat) :
    (field.setAll pieces).data.length = field.data.length := by
  induction pieces generalizing field with
  | nil => rfl
  | cons index pieces ih => exact (ih (field.set index)).trans (length_set field index)

/-- **After any additions** the pieces in the set are those that were in it, and those that were
added and that there is room for. -/
theorem has_setAll (field : Bitfield) (pieces : List Nat) (index : Nat) :
    (field.setAll pieces).has index = true ↔
      index < 8 * field.data.length ∧ (field.has index = true ∨ index ∈ pieces) := by
  induction pieces generalizing field with
  | nil =>
    show field.has index = true ↔ _
    simp only [List.not_mem_nil, or_false]
    constructor
    · intro h
      refine ⟨Nat.lt_of_not_le fun hle => ?_, h⟩
      rw [has_of_le hle] at h
      cases h
    · exact And.right
  | cons first pieces ih =>
    show ((field.set first).setAll pieces).has index = true ↔ _
    rw [ih, length_set, has_set, List.mem_cons, Bool.or_eq_true, decide_eq_true_eq]
    constructor
    · rintro ⟨hroom, (hhas | ⟨rfl, -⟩) | hmem⟩
      · exact ⟨hroom, .inl hhas⟩
      · exact ⟨hroom, .inr (.inl rfl)⟩
      · exact ⟨hroom, .inr (.inr hmem)⟩
    · rintro ⟨hroom, hhas | rfl | hmem⟩
      · exact ⟨hroom, .inl (.inl hhas)⟩
      · exact ⟨hroom, .inl (.inr ⟨rfl, hroom⟩)⟩
      · exact ⟨hroom, .inr hmem⟩

/-- Two runs of additions come to the same row just if they add the same of the pieces that there is
room for and that were not in it. -/
theorem setAll_eq_iff {pieces others : List Nat} :
    field.setAll others = field.setAll pieces ↔
      ∀ index < 8 * field.data.length, field.has index = false →
        (index ∈ others ↔ index ∈ pieces) := by
  constructor
  · intro h index hroom hnew
    have hothers := has_setAll field others index
    rw [h, has_setAll] at hothers
    simpa [hroom, hnew] using hothers.symm
  · intro h
    apply eq_of_has_eq
    · rw [length_setAll, length_setAll]
    · intro index
      rw [Bool.eq_iff_iff, has_setAll, has_setAll]
      apply and_congr_right
      intro hroom
      cases hnew : field.has index with
      | true => simp only [true_or]
      | false => rw [h index hroom hnew]

/-! ## Rows without pieces -/

theorem has_ofPieces (count index : Nat) : (ofPieces count).has index = false := by
  rcases Nat.lt_or_ge index (8 * (ofPieces count).data.length) with hlt | hge
  · have hplace : index / 8 < (ofPieces count).data.length := by omega
    rw [has_of_getElem? (List.getElem?_eq_getElem hplace)]
    simp [ofPieces]
  · exact has_of_le hge

/-- **A row of bits is a set of pieces.** A row made for a number of pieces has as few octets as
have room for them, and all are zero. Whatever row there is at first, adding any pieces in turn
keeps its length, and leaves in it just those that were in it and those that were added, as far as
there is room for them. The octets are these pieces, eight to an octet, the first in its most
significant bit. So what comes of a run depends only on which pieces it adds that there is room for
and that were not in the row; a piece without room changes nothing and is never in the set. -/
theorem setAll_as_set :
    (∀ count, (count ≤ 8 * (ofPieces count).data.length ∧
        8 * (ofPieces count).data.length < count + 8) ∧
      (∀ byte ∈ (ofPieces count).data, byte = 0) ∧ ∀ index, (ofPieces count).has index = false) ∧
    (∀ data, (ofBytes data).data = data) ∧
    ∀ (field : Bitfield) (pieces : List Nat),
      let after := field.setAll pieces
      after.data.length = field.data.length ∧
      (∀ index, after.has index = true ↔
        index < 8 * field.data.length ∧ (field.has index = true ∨ index ∈ pieces)) ∧
      (∀ place byte, after.data[place]? = some byte → ∀ bit < 8,
        byte.toNat.testBit (7 - bit) = after.has (8 * place + bit)) ∧
      (∀ others, field.setAll others = after ↔
        ∀ index < 8 * field.data.length, field.has index = false →
          (index ∈ others ↔ index ∈ pieces)) ∧
      ∀ index, 8 * field.data.length ≤ index →
        after.set index = after ∧ after.has index = false := by
  refine ⟨fun count => ⟨?_, ?_, has_ofPieces count⟩, fun data => rfl, fun field pieces => ?_⟩
  · simp only [ofPieces, List.length_replicate]
    omega
  · exact fun byte => List.eq_of_mem_replicate
  · intro after
    have hlength : after.data.length = field.data.length := length_setAll field pieces
    refine ⟨hlength, has_setAll field pieces, fun place byte h bit => testBit_of_getElem? h,
      fun others => setAll_eq_iff, fun index hle => ?_⟩
    rw [← hlength] at hle
    refine ⟨eq_of_has_eq (length_set after index) fun other => ?_, has_of_le hle⟩
    have hother : ¬(index = other ∧ other < 8 * after.data.length) := by omega
    rw [has_set, decide_eq_false hother, Bool.or_false]

end Swarm.Wire.Bitfield
