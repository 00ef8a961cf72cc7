import Swarm.Proofs.Stream.Source
import Swarm.Wire.Handshake

/-!
# Reading a handshake back

The first octet of a handshake is the length of the protocol name, which every handshake keeps
between 1 and 255, so that the octet tells the whole of it. The name, the flags, the digest and the
id are then cut where they were joined. A handshake is read just if its octets are the next ones,
and nothing behind them is gone.

## Main results

* `Handshake.withProtocol_eq_ok_iff`: the protocol names a handshake can have
* `Handshake.ofBlock?_eq_some_iff`: what the octets behind the first one make up
* `Handshake.read_eq_ok_iff`, `Handshake.exists_read_eq_error_iff`: a handshake is read just if its
  octets are the next ones, and else there is a fault
* `Handshake.read_encode_and_back`: both directions, with the fault of every other beginning
-/

namespace Swarm.Wire.Handshake

open Swarm.Stream (Source)

variable {source rest : Source} {handshake : Handshake} {size : Nat} {block : Bytes}

/-! ## Making a handshake -/

/-- A handshake of another protocol is made just if the name fits, and then has that name. -/
theorem withProtocol_eq_ok_iff {protocol : Bytes} {infoHash peerId : Octets 20} :
    (∃ handshake : Handshake, withProtocol protocol infoHash peerId = .ok handshake ∧
        handshake.protocol = protocol ∧ handshake.infoHash = infoHash ∧
        handshake.peerId = peerId) ↔
      1 ≤ protocol.length ∧ protocol.length ≤ 255 := by
  constructor
  · rintro ⟨handshake, -, rfl, -, -⟩
    exact ⟨handshake.protocol_pos, handshake.protocol_le⟩
  · rintro ⟨hpos, hle⟩
    have hne : protocol.length ≠ 0 := Nat.ne_of_gt hpos
    refine ⟨⟨protocol, Flags.none, infoHash, peerId, hpos, hle⟩, ?_, rfl, rfl, rfl⟩
    rw [withProtocol, dif_neg hne, dif_neg (Nat.not_lt.mpr hle)]

/-! ## The octets of a handshake -/

/-- The octets of a handshake behind the first one. -/
def body (handshake : Handshake) : Bytes :=
  handshake.protocol ++ handshake.flags.data ++ handshake.infoHash.data ++ handshake.peerId.data

theorem encode_eq_cons_body (handshake : Handshake) :
    handshake.encode = UInt8.ofNat handshake.protocol.length :: handshake.body := rfl

theorem length_body (handshake : Handshake) :
    handshake.body.length = handshake.protocol.length + tailLength := by
  simp only [body, List.length_append, Octets.length_data, Nat.add_assoc]
  rfl

/-- The first octet tells the whole length of the protocol name. -/
theorem toNat_length_protocol (handshake : Handshake) :
    (UInt8.ofNat handshake.protocol.length).toNat = handshake.protocol.length := by
  rw [UInt8.toNat_ofNat']
  exact Nat.mod_eq_of_lt (Nat.lt_succ_of_le handshake.protocol_le)

/-- The octets behind the first one are cut in one way only, once the length of the name is
known. -/
theorem eq_of_body_eq {other : Handshake}
    (hlength : handshake.protocol.length = other.protocol.length)
    (hbody : handshake.body = other.body) : handshake = other := by
  rw [body, body] at hbody
  obtain ⟨hhead, hpeerId⟩ := List.append_inj' hbody (by simp only [Octets.length_data])
  obtain ⟨hhead, hinfoHash⟩ := List.append_inj' hhead (by simp only [Octets.length_data])
  obtain ⟨hprotocol, hflags⟩ := List.append_inj hhead hlength
  cases handshake
  cases other
  obtain rfl := hprotocol
  obtain rfl := Octets.ext hflags
  obtain rfl := Octets.ext hinfoHash
  obtain rfl := Octets.ext hpeerId
  rfl

theorem eq_body_of_ofBlock? (h : ofBlock? size block = some handshake) :
    handshake.protocol.length = size ∧ block = handshake.body := by
  simp only [ofBlock?] at h
  split at h
  next =>
    split at h
    next flags infoHash peerId hflags hinfoHash hpeerId =>
      cases h
      rw [Octets.ofBytes?_eq_some_iff] at hflags hinfoHash hpeerId
      constructor
      · -- the name is not cut short, since there are octets behind it
        have hlength := flags.length_data
        rw [hflags, List.length_take, List.length_drop] at hlength
        exact List.length_take_of_le (by omega)
      · rw [body, hflags, hinfoHash, hpeerId, List.append_assoc, List.append_assoc,
          ← List.drop_drop (i := 20) (j := 8), List.take_append_drop, List.take_append_drop,
          List.take_append_drop]
    next => cases h
  next => cases h

/-- Octets of the right number make up a handshake. -/
theorem exists_ofBlock? (hpos : 0 < size) (hle : size ≤ 255)
    (hblock : block.length = size + tailLength) :
    ∃ handshake, ofBlock? size block = some handshake := by
  have htail : tailLength = 48 := rfl
  have hprotocol : (block.take size).length = size := List.length_take_of_le (by omega)
  have hflags : ((block.drop size).take 8).length = 8 := by
    simp only [List.length_take, List.length_drop]
    omega
  have hinfoHash : (((block.drop size).drop 8).take 20).length = 20 := by
    simp only [List.length_take, List.length_drop]
    omega
  have hpeerId : ((block.drop size).drop 28).length = 20 := by
    simp only [List.length_drop]
    omega
  have hname : 0 < (block.take size).length ∧ (block.take size).length ≤ 255 := by
    rw [hprotocol]
    exact ⟨hpos, hle⟩
  refine ⟨⟨block.take size, ⟨_, hflags⟩, ⟨_, hinfoHash⟩, ⟨_, hpeerId⟩, hname.1, hname.2⟩, ?_⟩
  simp only [ofBlock?, dif_pos hname, Octets.ofBytes?_of_length hflags,
    Octets.ofBytes?_of_length hinfoHash, Octets.ofBytes?_of_length hpeerId]

/-- What makes up a handshake are the octets behind its first one, and the length of its name. -/
theorem ofBlock?_eq_some_iff :
    ofBlock? size block = some handshake ↔
      handshake.protocol.length = size ∧ block = handshake.body := by
  constructor
  · exact eq_body_of_ofBlock?
  · rintro ⟨rfl, rfl⟩
    obtain ⟨other, hother⟩ :=
      exists_ofBlock? handshake.protocol_pos handshake.protocol_le handshake.length_body
    obtain ⟨hlength, hbody⟩ := eq_body_of_ofBlock? hother
    rw [hother, eq_of_body_eq hlength hbody.symm]

/-! ## Reading a handshake -/

/-- A handshake is read just if its octets are the next ones, and then nothing behind them is
gone. -/
theorem read_eq_ok_iff :
    read source = (.ok handshake, rest) ↔
      ∃ tail, source.pending = handshake.encode ++ tail ∧ rest = source.rest tail := by
  constructor
  · intro h
    unfold read at h
    rcases hlength : source.readUInt8 with ⟨_ | length, afterLength⟩
    · simp [hlength] at h
    obtain ⟨behindLength, hpending, rfl⟩ := Source.readUInt8_eq_ok_iff.mp hlength
    simp only [hlength] at h
    split at h
    next => cases (Prod.mk.inj h).1
    next =>
      rcases hblock : (source.rest behindLength).readBlock (length.toNat + tailLength) with
        ⟨_ | block, afterBlock⟩
      · simp [hblock] at h
      obtain ⟨tail, hbehindLength, -, rfl⟩ := Source.readBlock_eq_ok_iff.mp hblock
      simp only [hblock] at h
      split at h
      next theirs hmade =>
        cases h
        obtain ⟨hsize, rfl⟩ := ofBlock?_eq_some_iff.mp hmade
        rw [Source.pending_rest] at hbehindLength
        refine ⟨tail, ?_, rfl⟩
        rw [hpending, hbehindLength, encode_eq_cons_body, hsize, UInt8.ofNat_toNat,
          List.cons_append]
      next => cases (Prod.mk.inj h).1
  · rintro ⟨tail, hpending, rfl⟩
    have hlength : source.readUInt8 = (.ok (UInt8.ofNat handshake.protocol.length),
        source.rest (handshake.body ++ tail)) :=
      Source.readUInt8_eq_ok_iff.mpr ⟨_, hpending, rfl⟩
    have hblock : (source.rest (handshake.body ++ tail)).readBlock
        (handshake.protocol.length + tailLength) = (.ok handshake.body, source.rest tail) :=
      Source.readBlock_eq_ok_iff.mpr ⟨_, rfl, handshake.length_body, rfl⟩
    have hmade : ofBlock? handshake.protocol.length handshake.body = some handshake :=
      ofBlock?_eq_some_iff.mpr ⟨rfl, rfl⟩
    have hne : UInt8.ofNat handshake.protocol.length ≠ 0 := fun hzero => by
      have hpos := handshake.protocol_pos
      rw [← toNat_length_protocol, hzero] at hpos
      exact Nat.lt_irrefl 0 hpos
    simp only [read, hlength, if_neg hne, toNat_length_protocol, hblock, hmade]

/-- Reading gives a fault just if no handshake is there to be read. -/
theorem exists_read_eq_error_iff :
    (∃ fault, (read source).1 = .error fault) ↔
      ¬ ∃ theirs tail, source.pending = Handshake.encode theirs ++ tail := by
  constructor
  · rintro ⟨fault, hfault⟩ ⟨theirs, tail, hpending⟩
    rw [read_eq_ok_iff.mpr ⟨tail, hpending, rfl⟩] at hfault
    cases hfault
  · intro hnone
    rcases hread : read source with ⟨fault | theirs, rest⟩
    · exact ⟨fault, rfl⟩
    · obtain ⟨tail, hpending, -⟩ := read_eq_ok_iff.mp hread
      exact absurd ⟨theirs, tail, hpending⟩ hnone

/-- There is no handshake in a connection that has ended. -/
theorem read_of_nil (h : source.pending = []) :
    read source = (.error (.transfer .unexpectedEnd), source.rest []) := by
  have hshort : source.pending.length < 1 := by simp [h]
  rw [read, Source.readUInt8_of_lt hshort]

/-- A handshake without a protocol name is refused at its first octet. -/
theorem read_of_zero {behind : Bytes} (h : source.pending = 0 :: behind) :
    read source = (.error .zeroProtocolLength, source.rest behind) := by
  have hlength : source.readUInt8 = (.ok 0, source.rest behind) :=
    Source.readUInt8_eq_ok_iff.mpr ⟨_, h, rfl⟩
  simp only [read, hlength, if_true]

section Named

variable {length : UInt8} {behind : Bytes}

/-- A handshake that is cut short is not read. -/
theorem read_of_short (h : source.pending = length :: behind) (hne : length ≠ 0)
    (hshort : behind.length < length.toNat + tailLength) :
    read source = (.error (.transfer .earlyEnd), source.rest []) := by
  have hlength : source.readUInt8 = (.ok length, source.rest behind) :=
    Source.readUInt8_eq_ok_iff.mpr ⟨_, h, rfl⟩
  have hblock : (source.rest behind).readBlock (length.toNat + tailLength) =
      (.error .earlyEnd, source.rest []) :=
    Source.readBlock_of_lt hshort
  simp only [read, hlength, if_neg hne, hblock]

/-- Any octets are a handshake if the first is not zero and there are enough behind it. -/
theorem exists_encode_eq_cons (hne : length ≠ 0)
    (hlong : length.toNat + tailLength ≤ behind.length) :
    ∃ handshake : Handshake,
      handshake.encode = length :: behind.take (length.toNat + tailLength) := by
  have hpos : 0 < length.toNat := Nat.pos_of_ne_zero fun hzero => hne (UInt8.toNat_inj.mp hzero)
  have hle : length.toNat ≤ 255 := Nat.le_of_lt_succ length.toNat_lt
  obtain ⟨handshake, hmade⟩ := exists_ofBlock? hpos hle (List.length_take_of_le hlong)
  obtain ⟨hsize, hbody⟩ := ofBlock?_eq_some_iff.mp hmade
  exact ⟨handshake, by rw [encode_eq_cons_body, hsize, UInt8.ofNat_toNat, hbody]⟩

end Named

/-- What is read, and what is left, does not depend on the pieces the octets come in. -/
theorem read_congr {other : Source} (h : other.pending = source.pending) :
    (read other).1 = (read source).1 ∧ (read other).2.pending = (read source).2.pending := by
  rcases hpending : source.pending with _ | ⟨length, behind⟩
  · rw [read_of_nil hpending, read_of_nil (h.trans hpending)]
    exact ⟨rfl, rfl⟩
  · by_cases hzero : length = 0
    · subst hzero
      rw [read_of_zero hpending, read_of_zero (h.trans hpending)]
      exact ⟨rfl, rfl⟩
    · by_cases hshort : behind.length < length.toNat + tailLength
      · rw [read_of_short hpending hzero hshort, read_of_short (h.trans hpending) hzero hshort]
        exact ⟨rfl, rfl⟩
      · obtain ⟨handshake, hencode⟩ := exists_encode_eq_cons hzero (Nat.le_of_not_lt hshort)
        have hsplit : source.pending =
            handshake.encode ++ behind.drop (length.toNat + tailLength) := by
          rw [hpending, hencode, List.cons_append, List.take_append_drop]
        rw [read_eq_ok_iff.mpr ⟨_, hsplit, rfl⟩, read_eq_ok_iff.mpr ⟨_, h.trans hsplit, rfl⟩]
        exact ⟨rfl, rfl⟩

/-- **A handshake and its octets.** Whatever made a handshake, its protocol name has from 1 to 255
octets (another name than the standard one is taken just if it has), its octets are the length of
the name and so many more, and it is read back from them with all of its fields, and nothing behind
them is gone. Conversely a connection that has ended, a zero, and a first octet with too few behind
it are three faults; whatever else is there is read as a handshake, and is what its octets are. None
of this depends on the pieces the octets come in. -/
theorem read_encode_and_back :
    (∀ (protocol : Bytes) (infoHash peerId : Octets 20),
      (∃ handshake : Handshake, withProtocol protocol infoHash peerId = .ok handshake ∧
          handshake.protocol = protocol ∧ handshake.infoHash = infoHash ∧
          handshake.peerId = peerId) ↔
        1 ≤ protocol.length ∧ protocol.length ≤ 255) ∧
    (∀ handshake : Handshake,
      (1 ≤ handshake.protocol.length ∧ handshake.protocol.length ≤ 255) ∧
      handshake.encode.length = 1 + handshake.protocol.length + 48 ∧
      ∀ (source : Source) (tail : Bytes), source.pending = handshake.encode ++ tail →
        read source = (.ok handshake, source.rest tail)) ∧
    ∀ source : Source,
      (source.pending = [] →
        ∃ fault, read source = (.error (.transfer fault), source.rest [])) ∧
      (∀ behind, source.pending = 0 :: behind →
        read source = (.error .zeroProtocolLength, source.rest behind)) ∧
      ∀ (length : UInt8) (behind : Bytes), source.pending = length :: behind → 1 ≤ length →
        (source.pending.length < 1 + length.toNat + 48 →
          ∃ fault, read source = (.error (.transfer fault), source.rest [])) ∧
        (1 + length.toNat + 48 ≤ source.pending.length →
          ∃ handshake, read source =
              (.ok handshake, source.rest (source.pending.drop (1 + length.toNat + 48))) ∧
            handshake.encode = source.pending.take (1 + length.toNat + 48)) := by
  have htail : tailLength = 48 := rfl
  refine ⟨fun _ _ _ => withProtocol_eq_ok_iff, fun handshake => ⟨?_, ?_, ?_⟩, fun source =>
    ⟨fun h => ⟨_, read_of_nil h⟩, fun _ => read_of_zero, ?_⟩⟩
  · exact ⟨handshake.protocol_pos, handshake.protocol_le⟩
  · rw [encode_eq_cons_body, List.length_cons, length_body]
    omega
  · intro source tail h
    exact read_eq_ok_iff.mpr ⟨tail, h, rfl⟩
  · intro length behind h hpos
    have hne : length ≠ 0 := fun hzero => by
      rw [hzero] at hpos
      exact absurd hpos (by decide)
    have hcount : 1 + length.toNat + 48 = length.toNat + tailLength + 1 := by omega
    rw [h, hcount, List.length_cons, List.take_succ_cons, List.drop_succ_cons]
    refine ⟨fun hshort => ⟨_, read_of_short h hne (Nat.lt_of_succ_lt_succ hshort)⟩,
      fun hlong => ?_⟩
    obtain ⟨handshake, hencode⟩ := exists_encode_eq_cons hne (Nat.le_of_succ_le_succ hlong)
    refine ⟨handshake, read_eq_ok_iff.mpr ⟨_, ?_, rfl⟩, hencode⟩
    rw [h, hencode, List.cons_append, List.take_append_drop]

end Swarm.Wire.Handshake
