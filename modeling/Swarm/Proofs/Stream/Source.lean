import Swarm.Stream.Source

/-!
# What the readers take

A number or a block is read just if its octets are the next ones, and then nothing behind them is
gone. If fewer octets are left than are wanted, all of them are gone. Neither depends on how many
octets one read gives.

## Main results

* `Source.readExact_eq_some_iff`, `Source.readUInt8_eq_ok_iff`, `Source.readUInt32_eq_ok_iff`,
  `Source.readBlock_eq_ok_iff`: what a reader takes where it succeeds
* `Source.readUInt8_of_lt`, `Source.readUInt32_of_lt`, `Source.readBlock_of_lt`: too few octets
-/

namespace Swarm.Stream.Source

variable {source rest : Source} {wanted : Nat} {block : Bytes} {byte : UInt8} {word : UInt32}

theorem readExact_eq_some_iff :
    source.readExact wanted = (some block, rest) ↔
      ∃ tail, source.pending = block ++ tail ∧ block.length = wanted ∧
        rest = source.rest tail := by
  constructor
  · intro h
    by_cases hle : wanted ≤ source.pending.length
    · rw [readExact_of_le _ _ hle] at h
      obtain ⟨hblock, rfl⟩ := Prod.mk.inj h
      obtain rfl := Option.some.inj hblock
      exact ⟨_, (List.take_append_drop ..).symm, List.length_take_of_le hle, rfl⟩
    · rw [readExact_of_lt _ _ (Nat.lt_of_not_le hle)] at h
      cases (Prod.mk.inj h).1
  · rintro ⟨tail, hpending, rfl, rfl⟩
    have hle : block.length ≤ source.pending.length := by
      simp [hpending]
    rw [readExact_of_le _ _ hle, hpending, List.take_left, List.drop_left]

theorem readUInt8_eq_ok_iff :
    source.readUInt8 = (.ok byte, rest) ↔
      ∃ tail, source.pending = byte :: tail ∧ rest = source.rest tail := by
  constructor
  · intro h
    unfold readUInt8 at h
    split at h
    next _ _ hread =>
      cases h
      obtain ⟨tail, hpending, -, hrest⟩ := readExact_eq_some_iff.mp hread
      exact ⟨tail, hpending, hrest⟩
    next => cases (Prod.mk.inj h).1
  · rintro ⟨tail, hpending, rfl⟩
    have hread : source.readExact 1 = (some [byte], source.rest tail) :=
      readExact_eq_some_iff.mpr ⟨tail, hpending, rfl, rfl⟩
    rw [readUInt8, hread]

theorem readUInt32_eq_ok_iff :
    source.readUInt32 = (.ok word, rest) ↔
      ∃ tail, source.pending = BigEndian.ofUInt32 word ++ tail ∧ rest = source.rest tail := by
  constructor
  · intro h
    unfold readUInt32 at h
    split at h
    next a b c d _ hread =>
      cases h
      obtain ⟨tail, hpending, -, hrest⟩ := readExact_eq_some_iff.mp hread
      rw [BigEndian.ofUInt32_toUInt32]
      exact ⟨tail, hpending, hrest⟩
    next => cases (Prod.mk.inj h).1
  · rintro ⟨tail, hpending, rfl⟩
    have hread : source.readExact 4 = (some (BigEndian.ofUInt32 word), source.rest tail) :=
      readExact_eq_some_iff.mpr ⟨tail, hpending, rfl, rfl⟩
    rw [readUInt32, hread, BigEndian.ofUInt32]
    simp only [BigEndian.toUInt32_ofUInt32]

theorem readBlock_eq_ok_iff :
    source.readBlock wanted = (.ok block, rest) ↔
      ∃ tail, source.pending = block ++ tail ∧ block.length = wanted ∧
        rest = source.rest tail := by
  rw [← readExact_eq_some_iff, readBlock]
  split
  next _ _ hread => simp [hread]
  next _ hread => simp [hread]

/-! ## Too few octets -/

theorem readUInt8_of_lt (h : source.pending.length < 1) :
    source.readUInt8 = (.error .unexpectedEnd, source.rest []) := by
  rw [readUInt8, readExact_of_lt _ _ h]

theorem readUInt32_of_lt (h : source.pending.length < 4) :
    source.readUInt32 = (.error .unexpectedEnd, source.rest []) := by
  rw [readUInt32, readExact_of_lt _ _ h]

theorem readBlock_of_lt (h : source.pending.length < wanted) :
    source.readBlock wanted = (.error .earlyEnd, source.rest []) := by
  rw [readBlock, readExact_of_lt _ _ h]

end Swarm.Stream.Source
