import Swarm.Proofs.Bytes.Bits
import Swarm.Proofs.Wire.Handshake

/-!
# Extensions announced over any run

The three extensions have a flag each, at places that their identifiers do not tell. Announcing an
extension adds its flag to those of a handshake and touches nothing else, an unknown identifier adds
none, and a handshake that is written and read back is the one it was. So after any run of these
the flags are those there were at first and those of the identifiers in the run, however they are
ordered and however often each occurs.

## Main definitions

* `Extension.IsFlag`: where the flag of an identifier is
* `Flags.setIds`: the extensions of several identifiers announced one after the other
* `Handshake.Use`, `Handshake.useAll`: what can be done with a handshake, and a run of it
* `Handshake.announced`: the identifiers in a run

## Main results

* `Flags.testBit_setId`, `Flags.testBit_setIds`: the flags after one and after any announcements
* `Flags.hasId_of_isFlag`: an extension is announced just if its flag is there
* `Handshake.useAll_eq`: what comes of a run
* `Handshake.useAll_adds_flags`: a run keeps all but the flags, and adds just those it announces
-/

namespace Swarm.Wire

open Bytes (IsMask)

variable {flags : Flags} {id : UInt8} {ids others : List UInt8} {octet bit : Nat}

/-! ## Where the flags are -/

namespace Extension

/-- **The flag of an identifier**: the octet it is in, and its place there, counted from the least
significant bit. -/
inductive IsFlag : (id : UInt8) → (octet bit : Nat) → Prop where
  | dht : IsFlag 0 7 0
  | extensionProtocol : IsFlag 5 5 5
  | fast : IsFlag 7 7 7

/-- An identifier has one flag. -/
theorem IsFlag.unique {octet' bit' : Nat} (h : IsFlag id octet bit) (h' : IsFlag id octet' bit') :
    octet = octet' ∧ bit = bit' := by
  cases h <;> cases h' <;> exact ⟨rfl, rfl⟩

/-- No two identifiers share a flag. -/
theorem IsFlag.id_unique {other : UInt8} (h : IsFlag id octet bit) (h' : IsFlag other octet bit) :
    id = other := by
  cases h <;> cases h' <;> rfl

/-- Announcing an extension and asking for it go by one mask, at the place of its flag. -/
theorem IsFlag.exists_mask (h : IsFlag id octet bit) :
    octet < 8 ∧ ∃ mask, IsMask mask bit ∧ ∀ flags : Flags,
      flags.setId id = flags.modify octet (· ||| mask) ∧
      flags.hasId id = (flags.get octet &&& mask != 0) := by
  cases h with
  | dht =>
    exact ⟨by decide, 0x01, Bytes.isMask_shiftLeft 0 (by decide), fun _ => ⟨rfl, rfl⟩⟩
  | extensionProtocol =>
    exact ⟨by decide, 0x20, Bytes.isMask_shiftLeft 5 (by decide), fun _ => ⟨rfl, rfl⟩⟩
  | fast =>
    exact ⟨by decide, 0x80, Bytes.isMask_shiftLeft 7 (by decide), fun _ => ⟨rfl, rfl⟩⟩

/-- An identifier without a flag is that of no extension. -/
theorem ofId?_of_unknown (h : ¬∃ octet bit, IsFlag id octet bit) : ofId? id = none := by
  have hdht : id ≠ 0 := fun hid => h ⟨7, 0, hid ▸ .dht⟩
  have hprotocol : id ≠ 5 := fun hid => h ⟨5, 5, hid ▸ .extensionProtocol⟩
  have hfast : id ≠ 7 := fun hid => h ⟨7, 7, hid ▸ .fast⟩
  rw [ofId?, if_neg hdht, if_neg hprotocol, if_neg hfast]

/-- The only identifier among several that can have a flag is the one that has it. -/
theorem IsFlag.exists_mem_iff (h : IsFlag id octet bit) :
    (∃ other ∈ ids, IsFlag other octet bit) ↔ id ∈ ids := by
  constructor
  · rintro ⟨other, hmem, hother⟩
    rwa [h.id_unique hother]
  · exact fun hmem => ⟨id, hmem, h⟩

end Extension

open Extension (IsFlag)

namespace Flags

/-! ## Announcing -/

/-- Announcing the extension of an unknown identifier changes nothing, and it never is announced. -/
theorem setId_of_unknown (h : ¬∃ octet bit, IsFlag id octet bit) :
    flags.setId id = flags ∧ flags.hasId id = false := by
  rw [setId, hasId, Extension.ofId?_of_unknown h]
  exact ⟨rfl, rfl⟩

/-- An extension is announced just if its flag is there. -/
theorem hasId_of_isFlag (h : IsFlag id octet bit) :
    flags.hasId id = (flags.get octet).toNat.testBit bit := by
  obtain ⟨-, mask, hmask, hannounce⟩ := h.exists_mask
  rw [(hannounce flags).2, hmask.and_ne_zero]

/-- **Announcing the extension of an identifier** adds its flag, if it has one, and no other bit. -/
theorem testBit_setId (flags : Flags) (id : UInt8) (octet bit : Nat) :
    ((flags.setId id).get octet).toNat.testBit bit = true ↔
      (flags.get octet).toNat.testBit bit = true ∨ IsFlag id octet bit := by
  by_cases hknown : ∃ octet bit, IsFlag id octet bit
  · obtain ⟨octet', bit', hflag⟩ := hknown
    obtain ⟨hoctet, mask, hmask, hannounce⟩ := hflag.exists_mask
    rw [(hannounce flags).1, Octets.get_modify]
    by_cases hsame : octet' = octet
    · subst hsame
      have hiff : bit' = bit ↔ IsFlag id octet' bit :=
        ⟨fun h => h ▸ hflag, fun h => (hflag.unique h).2⟩
      rw [if_pos ⟨rfl, hoctet⟩, hmask.testBit_or, Bool.or_eq_true, decide_eq_true_eq, hiff]
    · have hnot : ¬IsFlag id octet bit := fun h => hsame (hflag.unique h).1
      simp only [hsame, false_and, if_false, hnot, or_false]
  · have hnot : ¬IsFlag id octet bit := fun h => hknown ⟨octet, bit, h⟩
    simp only [(setId_of_unknown hknown).1, hnot, or_false]

/-- The same flags with the extensions of several identifiers announced, one after the other. -/
def setIds (flags : Flags) (ids : List UInt8) : Flags :=
  ids.foldl setId flags

/-- **After any announcements** the bits are those there were at first, and the flags of the
identifiers. -/
theorem testBit_setIds (flags : Flags) (ids : List UInt8) (octet bit : Nat) :
    ((flags.setIds ids).get octet).toNat.testBit bit = true ↔
      (flags.get octet).toNat.testBit bit = true ∨ ∃ id ∈ ids, IsFlag id octet bit := by
  induction ids generalizing flags with
  | nil =>
    show (flags.get octet).toNat.testBit bit = true ↔ _
    simp only [List.not_mem_nil, false_and, exists_false, or_false]
  | cons id ids ih =>
    show (((flags.setId id).setIds ids).get octet).toNat.testBit bit = true ↔ _
    rw [ih, testBit_setId, or_assoc]
    simp only [List.mem_cons, exists_eq_or_imp]

/-- After any announcements an extension is announced just if it has a flag, and the flag was there
at first or its identifier is among those announced. -/
theorem hasId_setIds : (flags.setIds ids).hasId id = true ↔ ∃ octet bit, IsFlag id octet bit ∧
    ((flags.get octet).toNat.testBit bit = true ∨ id ∈ ids) := by
  have hbits : ∀ octet bit, IsFlag id octet bit → ((flags.setIds ids).hasId id = true ↔
      (flags.get octet).toNat.testBit bit = true ∨ id ∈ ids) := by
    intro octet bit hflag
    rw [hasId_of_isFlag hflag, testBit_setIds, hflag.exists_mem_iff]
  constructor
  · intro h
    by_cases hknown : ∃ octet bit, IsFlag id octet bit
    · obtain ⟨octet, bit, hflag⟩ := hknown
      exact ⟨octet, bit, hflag, (hbits octet bit hflag).mp h⟩
    · rw [(setId_of_unknown hknown).2] at h
      cases h
  · rintro ⟨octet, bit, hflag, h⟩
    exact (hbits octet bit hflag).mpr h

/-- Two runs of announcements come to the same flags just if they agree on the extensions that were
not announced at first. -/
theorem setIds_eq_iff : flags.setIds others = flags.setIds ids ↔
    ∀ id octet bit, IsFlag id octet bit → flags.hasId id = false → (id ∈ others ↔ id ∈ ids) := by
  constructor
  · intro h id octet bit hflag hnew
    rw [hasId_of_isFlag hflag] at hnew
    have hothers := testBit_setIds flags others octet bit
    rw [h, testBit_setIds, hflag.exists_mem_iff, hflag.exists_mem_iff, hnew] at hothers
    simpa using hothers.symm
  · intro h
    apply Octets.eq_of_get_eq
    intro octet
    apply Bytes.eq_of_testBit_eq
    intro bit _
    rw [Bool.eq_iff_iff, testBit_setIds, testBit_setIds]
    cases hnew : (flags.get octet).toNat.testBit bit with
    | true => simp only [true_or]
    | false =>
      -- a bit that is no flag is added by neither, a flag by both or by neither
      apply or_congr_right
      by_cases hflag : ∃ id, IsFlag id octet bit
      · obtain ⟨id, hflag⟩ := hflag
        rw [hflag.exists_mem_iff, hflag.exists_mem_iff]
        exact h id octet bit hflag ((hasId_of_isFlag hflag).trans hnew)
      · have hnone : ∀ id, ¬IsFlag id octet bit := fun id h => hflag ⟨id, h⟩
        simp only [hnone, and_false]

end Flags

/-! ## Runs of a handshake -/

namespace Handshake

/-- What can be done with a handshake. -/
inductive Use where
  /-- The extension of an identifier is announced. -/
  | announce (id : UInt8)
  /-- The handshake is written, and read back from a connection that has other octets behind it and
  hands out so many at a time. -/
  | carry (behind : Bytes) (chunk : Nat) (chunk_pos : 0 < chunk)

/-- The handshake after one use. -/
def use (handshake : Handshake) : Use → Except PeerError Handshake
  | .announce id => .ok (handshake.setExtensionId id)
  | .carry behind chunk chunk_pos => (read ⟨handshake.encode ++ behind, chunk, chunk_pos⟩).1

/-- The handshake after any uses. -/
def useAll (handshake : Handshake) : List Use → Except PeerError Handshake
  | [] => .ok handshake
  | use :: uses => (handshake.use use).bind (useAll · uses)

/-- The identifiers whose extensions are announced in a run, in order. -/
def announced : List Use → List UInt8 :=
  List.filterMap fun
    | .announce id => some id
    | .carry _ _ _ => none

/-- The same handshake with other flags. -/
def withFlags (handshake : Handshake) (flags : Flags) : Handshake :=
  { handshake with flags }

/-- A handshake that is written and read back is the one it was. -/
theorem use_carry (handshake : Handshake) (behind : Bytes) (chunk : Nat) (chunk_pos : 0 < chunk) :
    handshake.use (.carry behind chunk chunk_pos) = .ok handshake := by
  have hread : read ⟨handshake.encode ++ behind, chunk, chunk_pos⟩ =
      (.ok handshake, ⟨behind, chunk, chunk_pos⟩) :=
    read_eq_ok_iff.mpr ⟨behind, rfl, rfl⟩
  rw [use, hread]

/-- **What comes of a run**: the same handshake, with the extensions announced. -/
theorem useAll_eq (handshake : Handshake) (uses : List Use) :
    handshake.useAll uses =
      .ok (handshake.withFlags (handshake.flags.setIds (announced uses))) := by
  induction uses generalizing handshake with
  | nil => rfl
  | cons use uses ih =>
    cases use with
    | announce id => exact ih (handshake.setExtensionId id)
    | carry behind chunk chunk_pos =>
      rw [useAll, use_carry]
      exact ih handshake

/-- **A run adds the flags it announces, and does nothing else.** Whatever handshake there is at
first, and whatever extensions are announced by their identifiers while it is written and read back
any number of times, all goes well, and the protocol, the torrent and the peer stay what they were.
The bits of the flags are those there were and those of the identifiers announced, so no bit is ever
lost and an unknown identifier adds none. An extension is announced in the end just if its
identifier has a flag, and the flag was there at first or the identifier was announced. Two runs
come to the same just if they agree on the extensions that were not announced at first. -/
theorem useAll_adds_flags (handshake : Handshake) (uses : List Use) :
    ∃ after, handshake.useAll uses = .ok after ∧
      after.protocol = handshake.protocol ∧ after.infoHash = handshake.infoHash ∧
      after.peerId = handshake.peerId ∧
      (∀ octet bit, (after.flags.get octet).toNat.testBit bit = true ↔
        (handshake.flags.get octet).toNat.testBit bit = true ∨
          ∃ id ∈ announced uses, IsFlag id octet bit) ∧
      (∀ id, after.hasExtensionId id = true ↔ ∃ octet bit, IsFlag id octet bit ∧
        ((handshake.flags.get octet).toNat.testBit bit = true ∨ id ∈ announced uses)) ∧
      ∀ others, handshake.useAll others = .ok after ↔
        ∀ id octet bit, IsFlag id octet bit → handshake.hasExtensionId id = false →
          (id ∈ announced others ↔ id ∈ announced uses) := by
  refine ⟨_, useAll_eq handshake uses, rfl, rfl, rfl, ?_, ?_, ?_⟩
  · exact Flags.testBit_setIds handshake.flags (announced uses)
  · exact fun id => Flags.hasId_setIds
  · intro others
    rw [useAll_eq, Except.ok.injEq]
    constructor
    · exact fun h => Flags.setIds_eq_iff.mp (congrArg flags h)
    · exact fun h => congrArg handshake.withFlags (Flags.setIds_eq_iff.mpr h)

end Handshake

end Swarm.Wire
