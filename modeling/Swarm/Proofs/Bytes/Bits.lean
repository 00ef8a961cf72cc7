import Swarm.Bytes.Basic

/-!
# Bits of octets

The bits of an octet are counted from the least significant one, which is at place zero. A mask is
an octet with one bit only: put into another octet it adds that bit and leaves all others alone, and
what the two have in common tells whether the bit was there.

## Main definitions

* `Bytes.IsMask`: the octet whose only bit is at a place

## Main results

* `Bytes.eq_of_testBit_eq`: an octet is given by its eight bits
* `Bytes.IsMask.testBit_or`, `Bytes.IsMask.and_ne_zero`: adding the bit of a mask, and asking for it
-/

namespace Swarm.Bytes

/-- **A mask**: the octet whose only bit is at a place. -/
def IsMask (mask : UInt8) (place : Nat) : Prop :=
  ∀ other, mask.toNat.testBit other = decide (place = other)

variable {byte mask : UInt8} {place other : Nat}

/-- There is no bit past the eighth. -/
theorem testBit_of_le (byte : UInt8) (h : 8 ≤ place) : byte.toNat.testBit place = false := by
  apply Nat.testBit_lt_two_pow
  exact Nat.lt_of_lt_of_le byte.toNat_lt (Nat.pow_le_pow_right Nat.two_pos h)

/-- An octet is given by its eight bits. -/
theorem eq_of_testBit_eq {a b : UInt8}
    (h : ∀ place < 8, a.toNat.testBit place = b.toNat.testBit place) : a = b := by
  apply UInt8.toNat_inj.mp
  apply Nat.eq_of_testBit_eq
  intro place
  rcases Nat.lt_or_ge place 8 with hlt | hge
  · exact h place hlt
  · rw [testBit_of_le a hge, testBit_of_le b hge]

/-- A one is a mask once it is moved to a place. -/
theorem isMask_shiftLeft (place : Nat) (h : place < 8) :
    IsMask (1 <<< UInt8.ofNat place) place := by
  intro other
  have hplace : (UInt8.ofNat place).toNat % 8 = place := by
    rw [UInt8.toNat_ofNat']
    omega
  have hfits : 2 ^ place < 2 ^ 8 := Nat.pow_lt_pow_right (by decide) h
  rw [UInt8.toNat_shiftLeft, hplace, UInt8.toNat_one, Nat.one_shiftLeft, Nat.mod_eq_of_lt hfits,
    Nat.testBit_two_pow]

namespace IsMask

/-- Putting a mask into an octet adds its bit, and leaves all others alone. -/
theorem testBit_or (h : IsMask mask place) (byte : UInt8) (other : Nat) :
    (byte ||| mask).toNat.testBit other = (byte.toNat.testBit other || decide (place = other)) := by
  rw [UInt8.toNat_or, Nat.testBit_or, h other]

/-- An octet and a mask have something in common just if the octet has the bit of the mask. -/
theorem and_ne_zero (h : IsMask mask place) (byte : UInt8) :
    (byte &&& mask != 0) = byte.toNat.testBit place := by
  have hcommon : ∀ other, (byte &&& mask).toNat.testBit other =
      (byte.toNat.testBit other && decide (place = other)) := by
    intro other
    rw [UInt8.toNat_and, Nat.testBit_and, h other]
  cases hbit : byte.toNat.testBit place with
  | true =>
    apply bne_iff_ne.mpr
    intro hzero
    have hplace := hcommon place
    rw [hzero, hbit] at hplace
    simp at hplace
  | false =>
    -- the only bit that could be common is missing
    apply bne_eq_false_iff_eq.mpr
    apply eq_of_testBit_eq
    intro other _
    rw [hcommon other]
    by_cases hother : place = other
    · subst hother
      simp [hbit]
    · simp [hother]

end IsMask

end Swarm.Bytes
