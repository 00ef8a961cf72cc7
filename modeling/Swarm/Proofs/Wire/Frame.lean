import Mathlib.Data.List.Forall2
import Swarm.Proofs.Stream.Source
import Swarm.Wire.Frame

/-!
# Reading frames one after another

A frame on the wire is four zero octets, or a length and so many octets, of which the first need
not tell a kind of message. Every frame is read whole, so that the next one is read as if it came
first. Where the connection ends inside a frame, reading that frame fails, and nothing changes for
the frames before it.

## Main definitions

* `WireFrame`: a frame as it stands on the wire
* `WireFrame.octets`: its octets
* `WireFrame.Yields`: what reading it gives
* `Frame.readMany`: as many frames as are asked for

## Main results

* `Frame.readMany_of_octets`, `Frame.readMany_of_cut`: frames one after another, the last of them
  cut short or not
* `Frame.eq_encode_of_read`: what is gone once a frame is read
* `Frame.read_stream`: all of these
-/

namespace Swarm.Wire

open Swarm.Stream (Source)

/-! ## Messages -/

namespace Message

variable {code : UInt8} {payload : Bytes} {message : Message} {length : UInt32}

theorem ofCode_eq_ok_iff :
    ofCode code payload = .ok message ↔ message.kind.code = code ∧ message.payload = payload := by
  rw [ofCode]
  constructor
  · intro h
    cases hkind : MessageKind.ofCode? code with
    | none => simp [hkind] at h
    | some kind =>
      simp only [hkind, Except.ok.injEq] at h
      subst h
      exact ⟨MessageKind.ofCode?_eq_some_iff.mp hkind, rfl⟩
  · rintro ⟨rfl, rfl⟩
    rw [MessageKind.ofCode?_code]

/-- The number before a message is the one that was read, if so many octets stood behind it. -/
theorem length_eq (hne : length ≠ 0) (hsize : message.payload.length = length.toNat - 1) :
    message.length = length := by
  have hpos : length.toNat ≠ 0 := fun hzero => hne (UInt32.toNat_inj.mp hzero)
  have hlt := length.toNat_lt
  apply UInt32.toNat_inj.mp
  rw [Message.length, UInt32.toNat_add, UInt32.toNat_ofNat', hsize, UInt32.toNat_one]
  omega

/-- A message that was read is written with the octets it was read from. -/
theorem encode_of_ofCode (hne : length ≠ 0) (hsize : payload.length = length.toNat - 1)
    (h : ofCode code payload = .ok message) :
    message.encode = BigEndian.ofUInt32 length ++ code :: payload := by
  obtain ⟨rfl, rfl⟩ := ofCode_eq_ok_iff.mp h
  rw [encode, length_eq hne hsize]

end Message

/-! ## Frames on the wire -/

/-- A frame as it stands on the wire. The first octet of a message need not tell a kind. -/
inductive WireFrame where
  | keepAlive
  | message (code : UInt8) (payload : Bytes) (fits : 1 + payload.length ≤ maxFrameLength)

namespace WireFrame

/-- The octets of a frame: the length of what follows, and that. -/
def octets : WireFrame → Bytes
  | .keepAlive => [0, 0, 0, 0]
  | .message code payload _ =>
    BigEndian.ofUInt32 (UInt32.ofNat (1 + payload.length)) ++ code :: payload

/-- What reading a frame gives: the frame, or the octet that tells no kind. -/
inductive Yields : WireFrame → Except PeerError Frame → Prop
  | keepAlive : Yields .keepAlive (.ok .keepAlive)
  | known (kind : MessageKind) (payload : Bytes) (fits : 1 + payload.length ≤ maxFrameLength) :
    Yields (.message kind.code payload fits) (.ok (.message ⟨kind, payload⟩))
  | unknown (code : UInt8) (payload : Bytes) (fits : 1 + payload.length ≤ maxFrameLength)
    (h : 10 ≤ code) :
    Yields (.message code payload fits) (.error (.unknownMessageId code))

theorem yields_keepAlive_iff {result : Except PeerError Frame} :
    Yields .keepAlive result ↔ result = .ok .keepAlive := by
  constructor
  · rintro ⟨⟩
    rfl
  · rintro rfl
    exact .keepAlive

/-- Whether an octet tells a kind is what `Message.ofCode` finds out. -/
theorem yields_message_iff {code : UInt8} {payload : Bytes}
    {fits : 1 + payload.length ≤ maxFrameLength} {result : Except PeerError Frame} :
    Yields (.message code payload fits) result ↔
      result = (Message.ofCode code payload).map .message := by
  constructor
  · rintro (_ | ⟨kind⟩ | ⟨_, _, _, hcode⟩)
    · rw [Message.ofCode, MessageKind.ofCode?_code]
      rfl
    · rw [Message.ofCode, MessageKind.ofCode?_eq_none_iff.mpr hcode]
      rfl
  · rintro rfl
    unfold Message.ofCode
    cases hkind : MessageKind.ofCode? code with
    | none => exact .unknown code payload fits (MessageKind.ofCode?_eq_none_iff.mp hkind)
    | some kind =>
      obtain rfl := MessageKind.ofCode?_eq_some_iff.mp hkind
      exact .known kind payload fits

/-- Reading a frame gives something. -/
theorem exists_yields (frame : WireFrame) : ∃ result, Yields frame result := by
  cases frame with
  | keepAlive => exact ⟨_, .keepAlive⟩
  | message code payload fits => exact ⟨_, yields_message_iff.mpr rfl⟩

theorem exists_forall₂_yields (frames : List WireFrame) :
    ∃ results, List.Forall₂ Yields frames results := by
  induction frames with
  | nil => exact ⟨[], .nil⟩
  | cons frame frames ih =>
    obtain ⟨result, hresult⟩ := frame.exists_yields
    obtain ⟨results, hresults⟩ := ih
    exact ⟨result :: results, .cons hresult hresults⟩

end WireFrame

namespace Frame

variable {source rest : Source} {tail : Bytes}

/-! ## One frame -/

/-- The length of a message that fits is accepted, and tells how long the payload is. -/
theorem readUInt32_of_fits {payload : Bytes} (fits : 1 + payload.length ≤ maxFrameLength)
    (h : source.pending =
      BigEndian.ofUInt32 (UInt32.ofNat (1 + payload.length)) ++ tail) :
    ∃ length : UInt32, source.readUInt32 = (.ok length, source.rest tail) ∧ length ≠ 0 ∧
      ¬ maxFrameLength < length.toNat ∧ length.toNat - 1 = payload.length := by
  have htoNat : (UInt32.ofNat (1 + payload.length)).toNat = 1 + payload.length := by
    rw [UInt32.toNat_ofNat']
    exact Nat.mod_eq_of_lt (Nat.lt_of_le_of_lt fits (by decide))
  refine ⟨_, Source.readUInt32_eq_ok_iff.mpr ⟨tail, h, rfl⟩, fun hzero => ?_, ?_, ?_⟩
  · rw [hzero, UInt32.toNat_zero] at htoNat
    omega
  · rw [htoNat]
    exact Nat.not_lt.mpr fits
  · rw [htoNat, Nat.add_sub_cancel_left]

/-- A frame is read whole, and nothing behind it. -/
theorem read_of_octets {frame : WireFrame} {result : Except PeerError Frame}
    (hyields : frame.Yields result) (h : source.pending = frame.octets ++ tail) :
    read source = (result, source.rest tail) := by
  cases frame with
  | keepAlive =>
    have hlength : source.readUInt32 = (.ok 0, source.rest tail) :=
      Source.readUInt32_eq_ok_iff.mpr ⟨tail, h, rfl⟩
    rw [WireFrame.yields_keepAlive_iff.mp hyields]
    simp [read, hlength]
  | message code payload fits =>
    rw [WireFrame.octets, List.append_assoc] at h
    have hcode : (source.rest (code :: payload ++ tail)).readUInt8 =
        (.ok code, source.rest (payload ++ tail)) :=
      Source.readUInt8_eq_ok_iff.mpr ⟨_, rfl, rfl⟩
    have hpayload : (source.rest (payload ++ tail)).readBlock payload.length =
        (.ok payload, source.rest tail) :=
      Source.readBlock_eq_ok_iff.mpr ⟨_, rfl, rfl, rfl⟩
    obtain ⟨length, hlength, hne, hle, hsize⟩ := readUInt32_of_fits fits h
    rw [WireFrame.yields_message_iff.mp hyields]
    simp only [read, hlength, if_neg hne, if_neg hle, hsize, hcode, hpayload]

/-- A frame that is cut short is not read, whatever its octet tells. -/
theorem read_of_cut {frame : WireFrame} {cut : Nat} (hcut : cut < frame.octets.length)
    (h : source.pending = frame.octets.take cut) :
    ∃ fault, read source = (.error (.transfer fault), source.rest []) := by
  by_cases hlength : cut < 4
  · -- not even the length is there
    have hshort : source.pending.length < 4 := by
      rw [h]
      exact Nat.lt_of_le_of_lt (List.length_take_le ..) hlength
    refine ⟨.unexpectedEnd, ?_⟩
    rw [read, Source.readUInt32_of_lt hshort]
  · cases frame with
    | keepAlive => exact absurd hcut hlength
    | message code payload fits =>
      obtain ⟨behind, rfl⟩ := Nat.exists_eq_add_of_le (Nat.le_of_not_lt hlength)
      have hbehind : behind < 1 + payload.length := by
        simp only [WireFrame.octets, List.length_append, BigEndian.length_ofUInt32,
          List.length_cons] at hcut
        omega
      rw [WireFrame.octets, List.take_append, BigEndian.length_ofUInt32,
        List.take_of_length_le (by simp), Nat.add_sub_cancel_left] at h
      obtain ⟨length, hlength, hne, hle, hsize⟩ := readUInt32_of_fits fits h
      cases behind with
      | zero =>
        have hshort : (source.rest []).pending.length < 1 := Nat.zero_lt_one
        refine ⟨.unexpectedEnd, ?_⟩
        rw [List.take_zero] at hlength
        simp only [read, hlength, if_neg hne, if_neg hle, Source.readUInt8_of_lt hshort,
          Source.rest_rest]
      | succ some =>
        have hcode : (source.rest (code :: payload.take some)).readUInt8 =
            (.ok code, source.rest (payload.take some)) :=
          Source.readUInt8_eq_ok_iff.mpr ⟨_, rfl, rfl⟩
        have hshort : (source.rest (payload.take some)).pending.length < payload.length := by
          simp
          omega
        refine ⟨.earlyEnd, ?_⟩
        simp only [read, hlength, if_neg hne, if_neg hle, hsize, List.take_succ_cons, hcode,
          Source.readBlock_of_lt hshort, Source.rest_rest]

/-- What is gone once a frame is read are the octets of that frame. -/
theorem eq_encode_of_read {frame : Frame} (h : read source = (.ok frame, rest)) :
    ∃ tail, source.pending = frame.encode ++ tail ∧ rest = source.rest tail := by
  unfold read at h
  rcases hlength : source.readUInt32 with ⟨_ | length, afterLength⟩
  · simp [hlength] at h
  obtain ⟨behindLength, hpending, rfl⟩ := Source.readUInt32_eq_ok_iff.mp hlength
  simp only [hlength] at h
  split at h
  next hzero =>
    -- a frame of length zero
    obtain ⟨hframe, rfl⟩ := Prod.mk.inj h
    obtain rfl := Except.ok.inj hframe
    rw [hzero] at hpending
    exact ⟨behindLength, hpending, rfl⟩
  next hne =>
    split at h
    next => cases (Prod.mk.inj h).1
    next =>
      rcases hcode : (source.rest behindLength).readUInt8 with ⟨_ | code, afterCode⟩
      · simp [hcode] at h
      obtain ⟨behindCode, hbehindLength, rfl⟩ := Source.readUInt8_eq_ok_iff.mp hcode
      rcases hpayload : (source.rest behindCode).readBlock (length.toNat - 1) with
        ⟨_ | payload, afterPayload⟩
      · simp [hcode, hpayload] at h
      obtain ⟨tail, hbehindCode, hsize, rfl⟩ := Source.readBlock_eq_ok_iff.mp hpayload
      simp only [hcode, Source.rest_rest, hpayload] at h
      obtain ⟨hframe, rfl⟩ := Prod.mk.inj h
      rcases hmessage : Message.ofCode code payload with _ | message
      · simp [hmessage, Except.map] at hframe
      simp only [hmessage, Except.map, Except.ok.injEq] at hframe
      subst hframe
      refine ⟨tail, ?_, rfl⟩
      rw [Source.pending_rest] at hbehindLength hbehindCode
      rw [encode, Message.encode_of_ofCode hne hsize hmessage, hpending, hbehindLength,
        hbehindCode, List.append_assoc, List.cons_append]

/-! ## Frames one after another -/

/-- Reads as many frames as are asked for, whether or not reading them fails. -/
def readMany : Nat → Source → List (Except PeerError Frame) × Source
  | 0, source => ([], source)
  | count + 1, source =>
    let (result, rest) := read source
    let (results, rest) := readMany count rest
    (result :: results, rest)

variable {frames : List WireFrame} {results : List (Except PeerError Frame)}

/-- Frames are read one after another, and nothing behind them. -/
theorem readMany_of_octets (hyields : List.Forall₂ WireFrame.Yields frames results)
    (h : source.pending = frames.flatMap WireFrame.octets ++ tail) :
    readMany frames.length source = (results, source.rest tail) := by
  induction hyields generalizing source with
  | nil =>
    obtain rfl : source.pending = tail := h
    rfl
  | @cons frame result frames results hfirst _ ih =>
    rw [List.flatMap_cons, List.append_assoc] at h
    have hrest : readMany frames.length (source.rest (frames.flatMap WireFrame.octets ++ tail)) =
        (results, source.rest tail) := ih rfl
    rw [List.length_cons, readMany, read_of_octets hfirst h]
    simp only [hrest]

/-- Where the connection ends inside a frame, the frames before it are read all the same. -/
theorem readMany_of_cut (hyields : List.Forall₂ WireFrame.Yields frames results)
    {last : WireFrame} {cut : Nat} (hcut : cut < last.octets.length)
    (h : source.pending = frames.flatMap WireFrame.octets ++ last.octets.take cut) :
    ∃ fault, readMany (frames.length + 1) source =
      (results ++ [.error (.transfer fault)], source.rest []) := by
  induction hyields generalizing source with
  | nil =>
    obtain ⟨fault, hread⟩ := read_of_cut hcut h
    refine ⟨fault, ?_⟩
    simp only [List.length_nil, readMany, hread, List.nil_append]
  | @cons frame result frames results hfirst _ ih =>
    rw [List.flatMap_cons, List.append_assoc] at h
    obtain ⟨fault, hrest⟩ : ∃ fault, readMany (frames.length + 1)
        (source.rest (frames.flatMap WireFrame.octets ++ last.octets.take cut)) =
          (results ++ [.error (.transfer fault)], source.rest []) := ih rfl
    refine ⟨fault, ?_⟩
    rw [List.length_cons, readMany, read_of_octets hfirst h]
    simp only [hrest, List.cons_append]

/-- **Reading a stream of frames.** Any frames are read one after another, each with what it
yields, and leave what stands behind them; where the connection ends inside one of them, those
before it are read all the same, and reading it is a fault of the transfer. What is read does not
depend on the pieces the octets come in. Conversely, whenever a frame is read, its own octets are
gone and no others. -/
theorem read_stream :
    (∀ frames : List WireFrame, ∃ results, List.Forall₂ WireFrame.Yields frames results ∧
      (∀ (source : Source) (tail : Bytes),
        source.pending = frames.flatMap WireFrame.octets ++ tail →
          readMany frames.length source = (results, source.rest tail)) ∧
      ∀ (source : Source) (index : Nat) (h : index < frames.length) (cut : Nat),
        cut < frames[index].octets.length →
        source.pending =
          (frames.take index).flatMap WireFrame.octets ++ frames[index].octets.take cut →
          ∃ fault, readMany (index + 1) source =
            (results.take index ++ [.error (.transfer fault)], source.rest [])) ∧
    ∀ (source rest : Source) (frame : Frame), read source = (.ok frame, rest) →
      ∃ tail, source.pending = frame.encode ++ tail ∧ rest = source.rest tail := by
  refine ⟨fun frames => ?_, fun source rest frame => eq_encode_of_read⟩
  obtain ⟨results, hyields⟩ := WireFrame.exists_forall₂_yields frames
  refine ⟨results, hyields, fun source tail => readMany_of_octets hyields, ?_⟩
  intro source index h cut hcut hpending
  have htake := readMany_of_cut (List.forall₂_take index hyields) hcut hpending
  rwa [List.length_take_of_le (Nat.le_of_lt h)] at htake

end Frame

end Swarm.Wire
