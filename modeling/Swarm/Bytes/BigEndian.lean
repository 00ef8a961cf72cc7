import Swarm.Bytes.Basic

/-!
# Big-endian words

Numbers on the wire are unsigned words of two or four octets, the most significant octet first.

## Main definitions

* `BigEndian.ofUInt16`, `BigEndian.ofUInt32`: the octets of a word
* `BigEndian.toUInt16`, `BigEndian.toUInt32`: the word two or four octets stand for
-/

namespace Swarm.BigEndian

/-- The two octets of a word. -/
def ofUInt16 (word : UInt16) : Bytes :=
  [(word >>> 8).toUInt8, word.toUInt8]

/-- The four octets of a word. -/
def ofUInt32 (word : UInt32) : Bytes :=
  [(word >>> 24).toUInt8, (word >>> 16).toUInt8, (word >>> 8).toUInt8, word.toUInt8]

/-- The word that two octets stand for. -/
def toUInt16 (high low : UInt8) : UInt16 :=
  UInt16.ofNat (high.toNat * 256 + low.toNat)

/-- The word that four octets stand for. -/
def toUInt32 (a b c d : UInt8) : UInt32 :=
  UInt32.ofNat (((a.toNat * 256 + b.toNat) * 256 + c.toNat) * 256 + d.toNat)

@[simp] theorem length_ofUInt16 (word : UInt16) : (ofUInt16 word).length = 2 := rfl

@[simp] theorem length_ofUInt32 (word : UInt32) : (ofUInt32 word).length = 4 := rfl

/-- A word is read back from its own two octets. -/
theorem toUInt16_ofUInt16 (word : UInt16) :
    toUInt16 (word >>> 8).toUInt8 word.toUInt8 = word := by
  apply UInt16.toNat_inj.mp
  have h := word.toNat_lt
  simp only [toUInt16, UInt16.toNat_ofNat', UInt16.toNat_toUInt8, UInt16.toNat_shiftRight,
    Nat.shiftRight_eq_div_pow]
  simp
  omega

/-- A word is read back from its own four octets. -/
theorem toUInt32_ofUInt32 (word : UInt32) :
    toUInt32 (word >>> 24).toUInt8 (word >>> 16).toUInt8 (word >>> 8).toUInt8 word.toUInt8 =
      word := by
  apply UInt32.toNat_inj.mp
  have h := word.toNat_lt
  simp only [toUInt32, UInt32.toNat_ofNat', UInt32.toNat_toUInt8, UInt32.toNat_shiftRight,
    Nat.shiftRight_eq_div_pow]
  simp
  omega

/-- Two octets are the octets of the word they stand for. -/
theorem ofUInt16_toUInt16 (high low : UInt8) : ofUInt16 (toUInt16 high low) = [high, low] := by
  have h₁ := high.toNat_lt
  have h₂ := low.toNat_lt
  simp only [ofUInt16, List.cons.injEq, and_true]
  refine ⟨UInt8.toNat_inj.mp ?_, UInt8.toNat_inj.mp ?_⟩
  · simp only [toUInt16, UInt16.toNat_toUInt8, UInt16.toNat_shiftRight, UInt16.toNat_ofNat',
      Nat.shiftRight_eq_div_pow]
    simp
    omega
  · simp only [toUInt16, UInt16.toNat_toUInt8, UInt16.toNat_ofNat']
    simp

/-- Four octets are the octets of the word they stand for. -/
theorem ofUInt32_toUInt32 (a b c d : UInt8) :
    ofUInt32 (toUInt32 a b c d) = [a, b, c, d] := by
  have h₁ := a.toNat_lt
  have h₂ := b.toNat_lt
  have h₃ := c.toNat_lt
  have h₄ := d.toNat_lt
  simp only [ofUInt32, List.cons.injEq, and_true]
  refine ⟨UInt8.toNat_inj.mp ?_, UInt8.toNat_inj.mp ?_, UInt8.toNat_inj.mp ?_,
    UInt8.toNat_inj.mp ?_⟩ <;>
    simp only [toUInt32, UInt32.toNat_ofNat', UInt32.toNat_toUInt8, UInt32.toNat_shiftRight,
      Nat.shiftRight_eq_div_pow] <;>
    simp <;> omega

end Swarm.BigEndian
