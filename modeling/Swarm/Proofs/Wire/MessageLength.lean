import Swarm.Proofs.Stream.Source
import Swarm.Wire.Frame

/-!
# How the length before a message is read

The length before a message is a word of four octets, so that of a long message only the length
modulo `2 ^ 32` is sent. A reader can go by nothing else. As long as the length fits its word, a
message is read back whole, or refused at its length if it is too long. A longer one is taken for
what its octets begin with, and the reader then stands inside it.

## Main definitions

* `Frame.ReadsBack`: a message that is sent is read back, or refused at its length

## Main results

* `Frame.read_encode`: what is read where a message of any length was sent
* `Frame.readsBack_iff_length`: the messages that are read back or refused, and what is read
  instead of the others
* `Frame.not_readsBack_of_wrapped`: a message that is taken for an empty one
-/

namespace Swarm.Wire

open Swarm.Stream (Source)

/-- The number before a message is its length as far as four octets tell. -/
theorem Message.toNat_length (message : Message) :
    message.length.toNat = (1 + message.payload.length) % UInt32.size := by
  rw [Message.length, UInt32.toNat_add, UInt32.toNat_ofNat', UInt32.toNat_one,
    Nat.add_mod_mod]

/-- The octets behind the length of a message. -/
theorem Message.drop_encode (message : Message) :
    message.encode.drop 4 = message.kind.code :: message.payload :=
  List.drop_left' (BigEndian.length_ofUInt32 message.length)

namespace Frame

variable (message : Message) (source : Source) (tail : Bytes)

/-- **A message that is sent is not misframed**: it is read back whole and nothing behind it, or
refused at its length, of which the four octets are gone, if it is too long. -/
def ReadsBack : Prop :=
  if 1 + message.payload.length ≤ maxFrameLength then
    read (source.rest (message.encode ++ tail)) = (.ok (.message message), source.rest tail)
  else
    ∃ length, read (source.rest (message.encode ++ tail)) =
      (.error (.messageTooLong length), source.rest (message.encode.drop 4 ++ tail))

/-- What is read goes by the length that was sent: nothing of the message, no more than its length,
or so much of the payload as the length tells. -/
theorem read_encode :
    read (source.rest (message.encode ++ tail)) =
      if message.length.toNat = 0 then
        (.ok .keepAlive, source.rest (message.encode.drop 4 ++ tail))
      else if maxFrameLength < message.length.toNat then
        (.error (.messageTooLong message.length), source.rest (message.encode.drop 4 ++ tail))
      else
        (.ok (.message ⟨message.kind, message.payload.take (message.length.toNat - 1)⟩),
          source.rest (message.payload.drop (message.length.toNat - 1) ++ tail)) := by
  have hlength : (source.rest (message.encode ++ tail)).readUInt32 =
      (.ok message.length, source.rest (message.encode.drop 4 ++ tail)) := by
    refine Source.readUInt32_eq_ok_iff.mpr ⟨_, ?_, rfl⟩
    rw [Source.pending_rest, Message.drop_encode, Message.encode, List.append_assoc]
  have hzero : message.length = 0 ↔ message.length.toNat = 0 := UInt32.toNat_inj.symm
  simp only [read, hlength, hzero]
  split
  next => rfl
  next =>
    split
    next => rfl
    next =>
      -- the octet of the kind is there, and no less of the payload than the length tells
      have hcode : (source.rest (message.encode.drop 4 ++ tail)).readUInt8 =
          (.ok message.kind.code, source.rest (message.payload ++ tail)) := by
        refine Source.readUInt8_eq_ok_iff.mpr ⟨_, ?_, rfl⟩
        rw [Source.pending_rest, Message.drop_encode, List.cons_append]
      have hsize : message.length.toNat - 1 ≤ message.payload.length := by
        have := Nat.mod_le (1 + message.payload.length) UInt32.size
        rw [Message.toNat_length]
        omega
      have hpayload : (source.rest (message.payload ++ tail)).readBlock
          (message.length.toNat - 1) =
            (.ok (message.payload.take (message.length.toNat - 1)),
              source.rest (message.payload.drop (message.length.toNat - 1) ++ tail)) := by
        refine Source.readBlock_eq_ok_iff.mpr ⟨_, ?_, List.length_take_of_le hsize, rfl⟩
        rw [Source.pending_rest, ← List.append_assoc, List.take_append_drop]
      simp only [hcode, hpayload, Message.ofCode, MessageKind.ofCode?_code, Except.map]

/-- A message is read back whole if its length is accepted. -/
theorem read_encode_of_fits (fits : 1 + message.payload.length ≤ maxFrameLength) :
    read (source.rest (message.encode ++ tail)) = (.ok (.message message), source.rest tail) := by
  have hlength : message.length.toNat = 1 + message.payload.length := by
    rw [Message.toNat_length]
    exact Nat.mod_eq_of_lt (Nat.lt_of_le_of_lt fits (by decide))
  rw [read_encode, hlength, if_neg (by omega), if_neg (Nat.not_lt.mpr fits),
    Nat.add_sub_cancel_left, List.take_length, List.drop_length, List.nil_append]

/-- A message is refused at its length just if the length that was sent is refused. -/
theorem exists_read_encode_eq_tooLong_iff :
    (∃ length, read (source.rest (message.encode ++ tail)) =
        (.error (.messageTooLong length), source.rest (message.encode.drop 4 ++ tail))) ↔
      maxFrameLength < message.length.toNat := by
  rw [read_encode]
  constructor
  · rintro ⟨length, hread⟩
    split at hread
    next => cases (Prod.mk.inj hread).1
    next =>
      split at hread
      next h => exact h
      next => cases (Prod.mk.inj hread).1
  · intro h
    have hpos : message.length.toNat ≠ 0 := Nat.ne_of_gt (Nat.lt_of_le_of_lt (Nat.zero_le _) h)
    exact ⟨message.length, by rw [if_neg hpos, if_pos h]⟩

/-- **Which messages are read back.** A message that is sent is read back, or refused at its length,
just if its length is accepted or the length that was sent is refused; that is so whenever the
length fits its four octets. Any other message is misframed: if the length that was sent is zero
it is taken for a frame that keeps the connection alive, else for a message with so much of its
payload as that length tells, and what is left of it stands in front of what follows. -/
theorem readsBack_iff_length :
    (ReadsBack message source tail ↔ 1 + message.payload.length ≤ maxFrameLength ∨
      maxFrameLength < (1 + message.payload.length) % UInt32.size) ∧
    (1 + message.payload.length < UInt32.size → ReadsBack message source tail) ∧
    (¬ ReadsBack message source tail →
      read (source.rest (message.encode ++ tail)) =
        if (1 + message.payload.length) % UInt32.size = 0 then
          (.ok .keepAlive, source.rest (message.encode.drop 4 ++ tail))
        else
          (.ok (.message ⟨message.kind,
              message.payload.take ((1 + message.payload.length) % UInt32.size - 1)⟩),
            source.rest (message.payload.drop
              ((1 + message.payload.length) % UInt32.size - 1) ++ tail))) := by
  have hiff : ReadsBack message source tail ↔ 1 + message.payload.length ≤ maxFrameLength ∨
      maxFrameLength < (1 + message.payload.length) % UInt32.size := by
    rw [ReadsBack]
    split
    next fits => simp only [read_encode_of_fits message source tail fits, fits, true_or]
    next long =>
      rw [exists_read_encode_eq_tooLong_iff, Message.toNat_length]
      simp only [long, false_or]
  refine ⟨hiff, fun hword => hiff.mpr ?_, fun hnot => ?_⟩
  · rw [Nat.mod_eq_of_lt hword]
    exact (Nat.lt_or_ge _ _).symm
  · have haccepted := (not_or.mp (mt hiff.mpr hnot)).2
    rw [read_encode, Message.toNat_length, if_neg haccepted]

/-- A message whose payload has `2 ^ 32` octets is taken for one without a payload. -/
theorem read_encode_of_wrapped (h : message.payload.length = UInt32.size) :
    read (source.rest (message.encode ++ tail)) =
        (.ok (.message ⟨message.kind, []⟩), source.rest (message.payload ++ tail)) ∧
      ¬ ReadsBack message source tail := by
  have hlength : message.length.toNat = 1 := by
    rw [Message.toNat_length, h]
    rfl
  have hread : read (source.rest (message.encode ++ tail)) =
      (.ok (.message ⟨message.kind, []⟩), source.rest (message.payload ++ tail)) := by
    rw [read_encode, hlength, if_neg Nat.one_ne_zero, if_neg (by decide)]
    rfl
  have hlong : ¬ 1 + message.payload.length ≤ maxFrameLength := by
    rw [h]
    decide
  refine ⟨hread, fun hback => ?_⟩
  rw [ReadsBack, if_neg hlong, hread] at hback
  obtain ⟨length, hrefused⟩ := hback
  cases (Prod.mk.inj hrefused).1

/-- A block of zero octets, `2 ^ 32` of them with its index and offset, is taken for a piece
message without a payload, and all of its octets for what follows. -/
theorem not_readsBack_of_wrapped :
    let message : Message := ⟨.piece, List.replicate UInt32.size 0⟩
    let source : Source := ⟨[], 1, Nat.one_pos⟩
    read (source.rest (message.encode ++ [])) =
        (.ok (.message ⟨.piece, []⟩), source.rest (message.payload ++ [])) ∧
      ¬ ReadsBack message source [] :=
  read_encode_of_wrapped _ _ _ List.length_replicate

end Frame

end Swarm.Wire
