import Swarm.Proofs.Bencode.Fault

/-!
# The shape of a fault

A fault that is reported is the own fault of one value, in a wrapper for each list and dictionary
that is open around that value. As no more than sixty-four may be open, there are no more wrappers
than that. Which faults can have how many tells where they are raised: only a value that
is not there at all is empty input, only a list or dictionary that opens inside sixty-four others
is too deep, and the faults of a list or dictionary that was allowed to open are inside fewer.

## Main definitions

* `DecodeError.IsLeaf`: the faults that are no wrapper
* `RaisedInside`: where a fault is raised, and inside which lists and dictionaries

## Main results

* `DecodeError.inside_inj`: a fault tells its wrappers and what they are around
* `OwnFault.eq_nestingTooDeep_iff`, `OwnFault.eq_emptyInput_iff`, `OwnFault.room_pos`: what the
  fault of a value's own octets tells about them
* `decode_faults`: the faults of the decoder
-/

namespace Swarm.Bencode

variable {room inner : Nat} {data rest : Bytes} {around : List Container} {leaf : DecodeError}

/-! ## Wrappers -/

namespace DecodeError

/-- **A fault that is no wrapper.** -/
def IsLeaf (fault : DecodeError) : Prop :=
  ∀ inner, fault ≠ .listItem inner ∧ fault ≠ .dictionaryValue inner

theorem IsLeaf.ne_wrap (h : leaf.IsLeaf) (container : Container) (fault : DecodeError) :
    leaf ≠ container.wrap fault := by
  cases container with
  | list => exact (h fault).1
  | dict => exact (h fault).2

/-- The wrapper of a container tells it, and what is inside. -/
theorem wrap_inj {container other : Container} {fault inner : DecodeError} :
    container.wrap fault = other.wrap inner ↔ container = other ∧ fault = inner := by
  cases container <;> cases other <;> simp [Container.wrap]

/-- **Wrappers are told by the fault**: what is inside all of them is no wrapper, so a fault has its
wrappers in one way only. -/
theorem inside_inj {other : List Container} {leaf' : DecodeError} (h : leaf.IsLeaf)
    (h' : leaf'.IsLeaf) (heq : leaf.inside around = leaf'.inside other) :
    around = other ∧ leaf = leaf' := by
  induction around generalizing other with
  | nil =>
    cases other with
    | nil => exact ⟨rfl, heq⟩
    | cons container other => exact absurd heq (h.ne_wrap container _)
  | cons container around ih =>
    cases other with
    | nil => exact absurd heq.symm (h'.ne_wrap container _)
    | cons container' other =>
      obtain ⟨rfl, hinside⟩ := wrap_inj.mp heq
      obtain ⟨rfl, hleaf⟩ := ih hinside
      exact ⟨rfl, hleaf⟩

end DecodeError

/-! ## The faults of a value's own octets -/

theorem KeyFault.eq_or_eq (h : KeyFault data leaf) :
    leaf = .unterminatedDictionary ∨ leaf = .nonStringKey ∨ leaf = .malformedString ∨
      leaf = .truncatedString := by
  cases h with
  | missing => exact .inl rfl
  | other => exact .inr (.inl rfl)
  | string _ h => exact .inr (.inr (eq_or_eq_of_readString h))
  | alone => exact .inl rfl

namespace OwnFault

theorem isLeaf (h : OwnFault room data leaf) : leaf.IsLeaf := by
  intro inner
  -- only strings and integers, also as keys, have faults that their readers name
  cases h with
  | string _ h => rcases eq_or_eq_of_readString h with rfl | rfl <;> simp
  | integer h => rcases eq_or_eq_of_readInteger h with rfl | rfl | rfl | ⟨body, rfl⟩ <;> simp
  | dict _ _ hkey => rcases hkey.eq_or_eq with rfl | rfl | rfl | rfl <;> simp
  | _ => simp

/-- Input is empty just where there is no octet. -/
theorem eq_emptyInput_iff (h : OwnFault room data leaf) : leaf = .emptyInput ↔ data = [] := by
  cases h with
  | string _ h => rcases eq_or_eq_of_readString h with rfl | rfl <;> simp
  | integer h => rcases eq_or_eq_of_readInteger h with rfl | rfl | rfl | ⟨body, rfl⟩ <;> simp
  | dict _ _ hkey => rcases hkey.eq_or_eq with rfl | rfl | rfl | rfl <;> simp
  | _ => simp

/-- Too deep is just a list or dictionary that opens where there is no room. -/
theorem eq_nestingTooDeep_iff (h : OwnFault room data leaf) :
    leaf = .nestingTooDeep ↔
      room = 0 ∧ (data.head? = some openList ∨ data.head? = some openDict) := by
  cases h with
  | empty => simp
  | unknown _ _ hlist hdict => simp [hlist, hdict]
  | @string byte _ _ hdigit h =>
    -- no digit opens a list or a dictionary
    have hlist : byte ≠ openList := fun heq => absurd (heq ▸ hdigit) (by decide)
    have hdict : byte ≠ openDict := fun heq => absurd (heq ▸ hdigit) (by decide)
    rcases eq_or_eq_of_readString h with rfl | rfl <;> simp [hlist, hdict]
  | integer h =>
    have hlist : openInt ≠ openList := by decide
    have hdict : openInt ≠ openDict := by decide
    rcases eq_or_eq_of_readInteger h with rfl | rfl | rfl | ⟨body, rfl⟩ <;> simp [hlist, hdict]
  | tooDeep hroom hopen => simpa [hroom] using hopen
  | list hroom _ => simp [hroom]
  | dict hroom _ hkey =>
    rcases hkey.eq_or_eq with rfl | rfl | rfl | rfl <;> simp [hroom]

/-- A list or dictionary that does not end, or has another key than a string, had room to open. -/
theorem room_pos (h : OwnFault room data leaf)
    (hleaf : leaf ∈ [DecodeError.unterminatedList, .unterminatedDictionary, .nonStringKey]) :
    0 < room := by
  cases h with
  | string _ h => rcases eq_or_eq_of_readString h with rfl | rfl <;> simp at hleaf
  | integer h =>
    rcases eq_or_eq_of_readInteger h with rfl | rfl | rfl | ⟨body, rfl⟩ <;> simp at hleaf
  | list hroom _ => omega
  | dict hroom _ _ => omega
  | _ => simp at hleaf

end OwnFault

/-! ## The way of the reader -/

namespace Reaches

/-- Every list and dictionary on the way takes one of the room. -/
theorem length_add (h : Reaches room data around inner rest) : around.length + inner = room := by
  induction h with
  | here => exact Nat.zero_add _
  | item _ _ _ ih => rw [List.length_cons, Nat.add_right_comm, ih]
  | value _ _ _ ih => rw [List.length_cons, Nat.add_right_comm, ih]

/-- The reader never gets to the end of the octets inside a list or a dictionary: there it misses
the closing octet. -/
theorem eq_nil_iff (h : Reaches room data around inner rest) : rest = [] ↔ data = [] := by
  induction h with
  | here => exact Iff.rfl
  | item _ _ _ ih => simpa using ih
  | value _ _ _ ih => simpa using ih

theorem around_eq_nil (h : Reaches room [] around inner rest) : around = [] := by
  cases h
  rfl

end Reaches

/-! ## The faults of the decoder -/

/-- **Where a fault is raised**: the decoder gets to the octets `rest` inside the lists and
dictionaries `around`, the outermost first, and there a value raises the fault itself. -/
def RaisedInside (data : Bytes) (around : List Container) (rest : Bytes) (leaf : DecodeError) :
    Prop :=
  ∃ room, Reaches maxNesting data around room rest ∧ OwnFault room rest leaf

theorem RaisedInside.decode_eq (h : RaisedInside data around rest leaf) :
    decode data = .error (leaf.inside around) := by
  obtain ⟨room, hreach, hleaf⟩ := h
  exact decode_eq_error_iff.mpr ⟨around, room, rest, leaf, hreach, hleaf, rfl⟩

/-- **The faults of the decoder.** What is reported is the fault that a value raises itself, in a
wrapper for each list and dictionary around that value, of its kind and in their order; both are
told by the octets. There are at most sixty-four wrappers. The fault is empty input just if there
are no octets, with no wrapper then; it is too deep just if the value is a list or dictionary that
opens inside sixty-four; and that a list or dictionary does not end, or has a key that is no string,
is inside at most sixty-three. -/
theorem decode_faults (data : Bytes) :
    (∀ fault, decode data = .error fault ↔
      ∃ around rest leaf, RaisedInside data around rest leaf ∧ fault = leaf.inside around) ∧
    (∀ around rest leaf around' rest' leaf', RaisedInside data around rest leaf →
      RaisedInside data around' rest' leaf' → around = around' ∧ leaf = leaf') ∧
    ∀ around rest leaf, RaisedInside data around rest leaf →
      leaf.IsLeaf ∧ around.length ≤ 64 ∧
      (leaf = .emptyInput ↔ data = []) ∧ (data = [] → around = []) ∧
      (leaf = .nestingTooDeep ↔ around.length = 64 ∧
        (rest.head? = some openList ∨ rest.head? = some openDict)) ∧
      (leaf ∈ [DecodeError.unterminatedList, .unterminatedDictionary, .nonStringKey] →
        around.length ≤ 63) := by
  refine ⟨?_, ?_, ?_⟩
  · intro fault
    rw [decode_eq_error_iff]
    constructor
    · rintro ⟨around, room, rest, leaf, hreach, hleaf, hfault⟩
      exact ⟨around, rest, leaf, ⟨room, hreach, hleaf⟩, hfault⟩
    · rintro ⟨around, rest, leaf, ⟨room, hreach, hleaf⟩, hfault⟩
      exact ⟨around, room, rest, leaf, hreach, hleaf, hfault⟩
  · intro around rest leaf around' rest' leaf' h h'
    -- both are what is reported
    have heq := h.decode_eq.symm.trans h'.decode_eq
    obtain ⟨_, -, hleaf⟩ := h
    obtain ⟨_, -, hleaf'⟩ := h'
    exact DecodeError.inside_inj hleaf.isLeaf hleaf'.isLeaf (Except.error.inj heq)
  · rintro around rest leaf ⟨room, hreach, hleaf⟩
    have hlength : around.length + room = 64 := hreach.length_add
    refine ⟨hleaf.isLeaf, by omega, hleaf.eq_emptyInput_iff.trans hreach.eq_nil_iff, ?_, ?_, ?_⟩
    · rintro rfl
      exact hreach.around_eq_nil
    · have hroom : room = 0 ↔ around.length = 64 := by omega
      rw [hleaf.eq_nestingTooDeep_iff, hroom]
    · intro hmem
      have hpos := hleaf.room_pos hmem
      omega

end Swarm.Bencode
