import Swarm.Wire.Message

/-!
# What payloads say

A kind of message with a payload has a writer, which makes a message of what it is to say, and a
reader, which says what a message was made of. The messages that a reader accepts are those of its
writer and no others. A message of another kind is refused for that, whatever its payload; only
then the size of the payload counts, and only then what it holds.

## Main definitions

* `Message.Undoes`: a reader undoes a writer
* `Message.WrongSize`, `Message.PieceFault`: the payloads that are refused, and what for

## Main results

* `Message.undoes_of_payload`: a reader undoes a writer if it looks at the kind first and reads the
  payloads that are written
* `Message.readers_undo_writers`: every reader undoes the writer of its kind
-/

namespace Swarm

/-! ## Words in payloads -/

namespace BigEndian

/-- Four octets or more start with a word. -/
theorem exists_ofUInt32_append (data : Bytes) (h : 4 ≤ data.length) :
    ∃ word rest, data = ofUInt32 word ++ rest := by
  rcases data with _ | ⟨a, _ | ⟨b, _ | ⟨c, _ | ⟨d, rest⟩⟩⟩⟩
  case cons.cons.cons.cons =>
    refine ⟨toUInt32 a b c d, rest, ?_⟩
    rw [ofUInt32_toUInt32]
    rfl
  all_goals exact absurd h (by simp)

/-- Two octets are a word. -/
theorem exists_eq_ofUInt16 (data : Bytes) (h : data.length = 2) : ∃ word, data = ofUInt16 word := by
  rcases data with _ | ⟨high, _ | ⟨low, _ | ⟨_, rest⟩⟩⟩
  case cons.cons.nil => exact ⟨toUInt16 high low, (ofUInt16_toUInt16 high low).symm⟩
  all_goals exact absurd h (by simp)

/-- Four octets are a word. -/
theorem exists_eq_ofUInt32 (data : Bytes) (h : data.length = 4) : ∃ word, data = ofUInt32 word := by
  obtain ⟨word, rest, rfl⟩ := exists_ofUInt32_append data (Nat.le_of_eq h.symm)
  have hrest : rest = [] := by
    rw [List.length_append, length_ofUInt32] at h
    exact List.length_eq_zero_iff.mp (by omega)
  exact ⟨word, by rw [hrest, List.append_nil]⟩

end BigEndian

namespace Wire

namespace Block

theorem ofPayload?_payload (block : Block) : ofPayload? block.payload = some block := by
  simp only [payload, BigEndian.ofUInt32, List.cons_append, List.nil_append, ofPayload?,
    BigEndian.toUInt32_ofUInt32]

/-- Twelve octets name a block. -/
theorem exists_eq_payload (data : Bytes) (h : data.length = 12) :
    ∃ block, data = payload block := by
  -- one word after the other is split off, until no octet is left
  obtain ⟨index, data, rfl⟩ := BigEndian.exists_ofUInt32_append data (by omega)
  rw [List.length_append, BigEndian.length_ofUInt32] at h
  obtain ⟨start, data, rfl⟩ := BigEndian.exists_ofUInt32_append data (by omega)
  rw [List.length_append, BigEndian.length_ofUInt32] at h
  obtain ⟨length, rfl⟩ := BigEndian.exists_eq_ofUInt32 data (by omega)
  exact ⟨⟨index, start, length⟩, by rw [payload, List.append_assoc]⟩

theorem ofPayload?_of_length_ne {data : Bytes} (h : data.length ≠ 12) : ofPayload? data = none := by
  unfold ofPayload?
  split
  · exact absurd rfl h
  · rfl

end Block

namespace Message

variable {α : Type}

/-! ## Readers and writers -/

/-- **A reader undoes a writer**: it accepts just the messages that the writer makes, and gives
what they were made of. Any other message is refused: one of another kind for its kind, whatever
its payload, and one of the kind for what is `Bad` about its payload. -/
structure Undoes (read : Message → Except PeerError α) (write : α → Message) (kind : MessageKind)
    (Bad : Bytes → PeerError → Prop) : Prop where
  ok_iff (message : Message) (value : α) : read message = .ok value ↔ message = write value
  error_iff (message : Message) (fault : PeerError) :
    read message = .error fault ↔
      message.kind ≠ kind ∧ fault = .unexpectedMessage kind message.kind ∨
        message.kind = kind ∧ Bad message.payload fault

/-- **Payloads of the wrong size**, and the fault that tells their size. -/
def WrongSize (size : Nat) (tell : Nat → PeerError) (data : Bytes) (fault : PeerError) : Prop :=
  data.length ≠ size ∧ fault = tell data.length

/-- **Payloads that hold no octets of the piece asked for**: those without room for an index and an
offset, and those with another index. -/
inductive PieceFault (expected : UInt32) : Bytes → PeerError → Prop where
  | short {data : Bytes} (h : data.length < 8) :
    PieceFault expected data (.invalidPiecePayload data.length)
  | other {index : UInt32} (start : UInt32) (content : Bytes) (h : index ≠ expected) :
    PieceFault expected (BigEndian.ofUInt32 index ++ BigEndian.ofUInt32 start ++ content)
      (.unexpectedPieceIndex expected index)

section Payload

variable {read : Message → Except PeerError α} {write : α → Message} {kind : MessageKind}
  {Bad : Bytes → PeerError → Prop} (parse : Message → Except PeerError α) (payload : α → Bytes)

theorem expect_self (data : Bytes) : expect ⟨kind, data⟩ kind = .ok () :=
  if_pos rfl

theorem expect_of_ne {message : Message} (h : message.kind ≠ kind) :
    message.expect kind = .error (.unexpectedMessage kind message.kind) :=
  if_neg h

/-- **Kind first, then payload**: a reader undoes a writer if it looks at the kind before anything
else, reads the payloads that the writer writes, and finds every other payload bad. -/
theorem undoes_of_payload
    (hread : ∀ message, read message = (message.expect kind).bind fun _ => parse message)
    (hwrite : ∀ value, write value = ⟨kind, payload value⟩)
    (hparse : ∀ value, parse ⟨kind, payload value⟩ = .ok value)
    (hbad : ∀ data fault, Bad data fault → parse ⟨kind, data⟩ = .error fault)
    (hcases : ∀ data, (∃ value, data = payload value) ∨ ∃ fault, Bad data fault) :
    Undoes read write kind Bad := by
  have hother : ∀ message, message.kind ≠ kind →
      read message = .error (.unexpectedMessage kind message.kind) := by
    intro message h
    rw [hread, expect_of_ne h]
    rfl
  have hkind : ∀ data, read ⟨kind, data⟩ = parse ⟨kind, data⟩ := by
    intro data
    rw [hread, expect_self]
    rfl
  constructor
  · intro message value
    constructor
    · intro h
      by_cases hne : message.kind = kind
      · obtain ⟨_, data⟩ := message
        subst hne
        rw [hkind] at h
        rcases hcases data with ⟨other, rfl⟩ | ⟨fault, hfault⟩
        · rw [hparse, Except.ok.injEq] at h
          rw [hwrite, h]
        · rw [hbad data fault hfault] at h
          cases h
      · rw [hother message hne] at h
        cases h
    · rintro rfl
      rw [hwrite, hkind, hparse]
  · intro message fault
    constructor
    · intro h
      by_cases hne : message.kind = kind
      · obtain ⟨_, data⟩ := message
        subst hne
        refine .inr ⟨rfl, ?_⟩
        rw [hkind] at h
        rcases hcases data with ⟨value, rfl⟩ | ⟨other, hother⟩
        · rw [hparse] at h
          cases h
        · -- a payload has no two faults, since reading it gives one of them
          rw [hbad data other hother, Except.error.injEq] at h
          exact h ▸ hother
      · rw [hother message hne, Except.error.injEq] at h
        exact .inl ⟨hne, h.symm⟩
    · rintro (⟨hne, rfl⟩ | ⟨rfl, hfault⟩)
      · exact hother message hne
      · exact (hkind message.payload).trans (hbad message.payload fault hfault)

/-- The case of payloads of one size, each of which can be written. -/
theorem undoes_of_size {size : Nat} {tell : Nat → PeerError}
    (hread : ∀ message, read message = (message.expect kind).bind fun _ => parse message)
    (hwrite : ∀ value, write value = ⟨kind, payload value⟩)
    (hparse : ∀ value, parse ⟨kind, payload value⟩ = .ok value)
    (hsize : ∀ data : Bytes, data.length = size → ∃ value, data = payload value)
    (hwrong : ∀ data : Bytes, data.length ≠ size → parse ⟨kind, data⟩ = .error (tell data.length)) :
    Undoes read write kind (WrongSize size tell) := by
  apply undoes_of_payload parse payload hread hwrite hparse
  · rintro data _ ⟨hne, rfl⟩
    exact hwrong data hne
  · intro data
    by_cases h : data.length = size
    · exact .inl (hsize data h)
    · exact .inr ⟨_, h, rfl⟩

end Payload

/-! ## The kinds with a payload -/

theorem undoes_asHave : Undoes asHave haves .have (WrongSize 4 .invalidHavePayload) := by
  refine undoes_of_size havePayload BigEndian.ofUInt32 (fun _ => rfl) (fun _ => rfl) ?_
    BigEndian.exists_eq_ofUInt32 ?_
  · intro index
    exact congrArg Except.ok (BigEndian.toUInt32_ofUInt32 index)
  · intro data hne
    unfold havePayload
    split
    next h =>
      subst h
      exact absurd rfl hne
    next => rfl

theorem undoes_asBitfield : Undoes asBitfield bitfield .bitfield fun _ _ => False := by
  refine undoes_of_payload (fun message => .ok (.ofBytes message.payload)) Bitfield.data ?_
    (fun _ => rfl) (fun _ => rfl) (fun _ _ => False.elim) ?_
  · intro message
    rw [asBitfield]
    cases message.expect .bitfield <;> rfl
  · -- every payload is that of a row of bits
    intro data
    exact .inl ⟨.ofBytes data, rfl⟩

/-- The two kinds that name a block share their payload, and the fault of its size. -/
theorem undoes_blockPayload {kind : MessageKind} {read : Message → Except PeerError Block}
    {write : Block → Message}
    (hread : ∀ message, read message = (message.expect kind).bind fun _ => message.blockPayload)
    (hwrite : ∀ block, write block = ⟨kind, block.payload⟩) :
    Undoes read write kind (WrongSize 12 .invalidRequestPayload) := by
  refine undoes_of_size blockPayload Block.payload hread hwrite ?_ Block.exists_eq_payload ?_
  · intro block
    rw [blockPayload, Block.ofPayload?_payload]
  · intro data hne
    rw [blockPayload, Block.ofPayload?_of_length_ne hne]

/-- What a payload holds behind its index and its offset has any size. -/
theorem piecePayload?_append (index start : UInt32) (content : Bytes) :
    piecePayload? (BigEndian.ofUInt32 index ++ BigEndian.ofUInt32 start ++ content) =
      some (index, start, content) := by
  simp only [BigEndian.ofUInt32, List.cons_append, List.nil_append, piecePayload?,
    BigEndian.toUInt32_ofUInt32]

theorem piecePayload?_of_length_lt {data : Bytes} (h : data.length < 8) :
    piecePayload? data = none := by
  unfold piecePayload?
  split
  · simp only [List.length_cons] at h
    omega
  · rfl

theorem undoes_asPiece (expected : UInt32) :
    Undoes (asPiece · expected) (fun block => piece expected block.1 block.2) .piece
      (PieceFault expected) := by
  refine undoes_of_payload (·.piecePayload expected)
    (fun block => BigEndian.ofUInt32 expected ++ BigEndian.ofUInt32 block.1 ++ block.2)
    (fun _ => rfl) (fun _ => rfl) ?_ ?_ ?_
  · rintro ⟨start, content⟩
    simp only [piecePayload, piecePayload?_append, if_true]
  · intro data fault hfault
    cases hfault with
    | short h => simp only [piecePayload, piecePayload?_of_length_lt h]
    | other start content h => simp only [piecePayload, piecePayload?_append, if_neg h]
  · intro data
    rcases Nat.lt_or_ge data.length 8 with hshort | hroom
    · exact .inr ⟨_, .short hshort⟩
    · obtain ⟨index, rest, rfl⟩ := BigEndian.exists_ofUInt32_append data (by omega)
      rw [List.length_append, BigEndian.length_ofUInt32] at hroom
      obtain ⟨start, content, rfl⟩ := BigEndian.exists_ofUInt32_append rest (by omega)
      rw [← List.append_assoc]
      by_cases hindex : index = expected
      · exact .inl ⟨(start, content), by rw [hindex]⟩
      · exact .inr ⟨_, .other start content hindex⟩

theorem undoes_asPort : Undoes asPort port .port (WrongSize 2 .invalidPortPayload) := by
  refine undoes_of_size portPayload BigEndian.ofUInt16 (fun _ => rfl) (fun _ => rfl) ?_
    BigEndian.exists_eq_ofUInt16 ?_
  · intro number
    exact congrArg Except.ok (BigEndian.toUInt16_ofUInt16 number)
  · intro data hne
    unfold portPayload
    split
    next h =>
      subst h
      exact absurd rfl hne
    next => rfl

/-- **Every reader undoes the writer of its kind**, and refuses all other messages: for their kind,
else for the size of their payload, else, where octets of a piece are asked for, because they are
of another piece. -/
theorem readers_undo_writers (expected : UInt32) :
    Undoes asHave haves .have (WrongSize 4 .invalidHavePayload) ∧
    Undoes asBitfield bitfield .bitfield (fun _ _ => False) ∧
    Undoes asRequest request .request (WrongSize 12 .invalidRequestPayload) ∧
    Undoes asCancel cancel .cancel (WrongSize 12 .invalidRequestPayload) ∧
    Undoes (asPiece · expected) (fun block => piece expected block.1 block.2) .piece
      (PieceFault expected) ∧
    Undoes asPort port .port (WrongSize 2 .invalidPortPayload) :=
  ⟨undoes_asHave, undoes_asBitfield, undoes_blockPayload (fun _ => rfl) (fun _ => rfl),
    undoes_blockPayload (fun _ => rfl) (fun _ => rfl), undoes_asPiece expected, undoes_asPort⟩

end Message

end Wire

end Swarm
