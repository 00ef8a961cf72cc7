import Mathlib.Data.Set.Subsingleton
import Swarm.Proofs.Bencode.Container

/-!
# What is accepted

The decoder accepts exactly the written forms. It succeeds on some octets just when a front of
them is a written form of a value with no list and no dictionary inside more than sixty-three
others, and it gives that value and the size of that front. So a value and a size are determined
by the octets, although a value has many written forms.

## Main results

* `reads_value`: values are read exactly
* `decode_eq_ok_iff_form`: the decoder accepts a written form and what follows it, and nothing
  else
* `Form.mono`: a form with room for fewer lists and dictionaries is one with room for more
-/

namespace Swarm.Bencode

variable {room : Nat}

/-! ## The octet that a value starts with -/

section FirstOctet

theorem readValue_nil : readValue room [] = .error .emptyInput := by
  unfold readValue
  rfl

theorem readValue_of_isDigit {byte : UInt8} (h : Bytes.isDigit byte = true) (rest : Bytes) :
    readValue room (byte :: rest) = (readString (byte :: rest)).map (·.map .bytes) := by
  unfold readValue
  exact if_pos h

/-- The same reading with the mark in front of it. -/
def Reading.behindMark {α : Type} (reading : Reading α) : Reading α :=
  ⟨reading.value, reading.size + 1, Nat.succ_pos reading.size⟩

theorem readValue_int (rest : Bytes) :
    readValue room (openInt :: rest) =
      (readInteger rest).map fun reading => (reading.map Value.int).behindMark := by
  unfold readValue
  rw [if_neg (by decide), if_pos rfl]
  rfl

theorem readValue_list (rest : Bytes) :
    readValue (room + 1) (openList :: rest) =
      (readItems (readValue room) [] 1 rest).map (·.map .list) := by
  rw [readValue, if_neg (by decide), if_neg (by decide), if_pos rfl]

theorem readValue_dict (rest : Bytes) :
    readValue (room + 1) (openDict :: rest) =
      (readEntries (readValue room) [] 1 rest).map (·.map dictOfEntries) := by
  rw [readValue, if_neg (by decide), if_neg (by decide), if_neg (by decide), if_pos rfl]

theorem readValue_list_zero (rest : Bytes) :
    readValue 0 (openList :: rest) = .error .nestingTooDeep := by
  rw [readValue, if_neg (by decide), if_neg (by decide), if_pos rfl]

theorem readValue_dict_zero (rest : Bytes) :
    readValue 0 (openDict :: rest) = .error .nestingTooDeep := by
  rw [readValue, if_neg (by decide), if_neg (by decide), if_neg (by decide), if_pos rfl]

theorem readValue_unknown {byte : UInt8} (hdigit : Bytes.isDigit byte = false)
    (hint : byte ≠ openInt) (hlist : byte ≠ openList) (hdict : byte ≠ openDict) (rest : Bytes) :
    readValue room (byte :: rest) = .error (.unknownType byte) := by
  unfold readValue
  simp only [hdigit, Bool.false_eq_true, if_false, if_neg hint, if_neg hlist, if_neg hdict]

end FirstOctet

/-! ## Values are read exactly -/

theorem length_marked (mark : UInt8) (text : Bytes) :
    (mark :: (text ++ [closing])).length = 1 + text.length + 1 := by
  rw [List.length_cons, List.length_append, List.length_singleton, Nat.add_comm 1]

theorem marked_append (mark : UInt8) (text rest : Bytes) :
    mark :: (text ++ [closing]) ++ rest = mark :: (text ++ closing :: rest) := by
  rw [List.cons_append, List.append_assoc, List.singleton_append]

section Exactness

-- The value is read with room for one list or dictionary less inside the next one.

variable (hinner : ∀ inner, room = inner + 1 → Reads (Form inner) (readValue inner))
include hinner

theorem readValue_sound {data : Bytes} {reading : Reading Value}
    (h : readValue room data = .ok reading) :
    ∃ text rest, data = text ++ rest ∧ reading.size = text.length ∧
      Form room text reading.value := by
  rcases data with _ | ⟨byte, data⟩
  · exact absurd h (by simp [readValue_nil])
  by_cases hdigit : Bytes.isDigit byte = true
  · rw [readValue_of_isDigit hdigit, map_eq_ok_iff] at h
    obtain ⟨string, hstring, rfl⟩ := h
    obtain ⟨text, rest, hdata, hsize, htext⟩ := reads_string.sound hstring
    exact ⟨text, rest, hdata, hsize, .bytes htext⟩
  by_cases hint : byte = openInt
  · subst hint
    rw [readValue_int, map_eq_ok_iff] at h
    obtain ⟨integer, hinteger, rfl⟩ := h
    obtain ⟨text, rest, rfl, hsize, rfl⟩ := reads_integer.sound hinteger
    refine ⟨_, rest, rfl, ?_, .int integer.value⟩
    rw [List.length_cons, ← hsize]
    rfl
  by_cases hlist : byte = openList
  · subst hlist
    rcases room with _ | room
    · exact absurd h (by simp [readValue_list_zero])
    · rw [readValue_list, map_eq_ok_iff] at h
      obtain ⟨items, hitems, rfl⟩ := h
      obtain ⟨text, rest, rfl, htext, hsize⟩ :=
        (readItems_eq_ok_iff (hinner room rfl)).mp hitems
      exact ⟨_, rest, (marked_append openList text rest).symm,
        hsize.trans (length_marked openList text).symm, .list htext⟩
  by_cases hdict : byte = openDict
  · subst hdict
    rcases room with _ | room
    · exact absurd h (by simp [readValue_dict_zero])
    · rw [readValue_dict, map_eq_ok_iff] at h
      obtain ⟨entries, hentries, rfl⟩ := h
      obtain ⟨text, rest, rfl, htext, hsize⟩ :=
        (readEntries_eq_ok_iff (hinner room rfl)).mp hentries
      exact ⟨_, rest, (marked_append openDict text rest).symm,
        hsize.trans (length_marked openDict text).symm, .dict htext.entriesForm⟩
  · rw [readValue_unknown (by simpa using hdigit) hint hlist hdict] at h
    exact absurd h (by simp)

theorem readValue_complete {text : Bytes} {value : Value} (h : Form room text value)
    (rest : Bytes) :
    ∃ hpos : 0 < text.length, readValue room (text ++ rest) = .ok ⟨value, text.length, hpos⟩ := by
  cases h with
  | int n =>
    obtain ⟨_, hread⟩ := reads_integer.complete (rfl : _ = Decimal.ofInt n.toInt ++ [closing]) rest
    refine ⟨by simp, ?_⟩
    rw [List.cons_append, readValue_int, hread]
    rfl
  | @bytes _ _ data htext =>
    obtain ⟨hpos, hread⟩ := reads_string.complete htext rest
    obtain ⟨byte, tail, rfl, hdigit⟩ := htext.head_isDigit
    refine ⟨hpos, ?_⟩
    rw [List.cons_append] at hread ⊢
    rw [readValue_of_isDigit hdigit, hread]
    rfl
  | @list room text items htext =>
    obtain ⟨_, hread⟩ := readItems_of_itemsForm (hinner room rfl) htext rest
    refine ⟨by simp, ?_⟩
    rw [marked_append, readValue_list, hread]
    exact congrArg Except.ok (Reading.ext rfl (length_marked openList text).symm)
  | @dict room text pairs htext =>
    obtain ⟨entries, hentries, hpairs⟩ := Tiles.exists_of_entriesForm htext 1
    obtain ⟨_, hread⟩ := readEntries_of_tiles (hinner room rfl) hentries rest
    have hvalue : dictOfEntries entries = .dict (Dict.ofList pairs) :=
      congrArg Value.ofEntries hpairs
    refine ⟨by simp, ?_⟩
    rw [marked_append, readValue_dict, hread]
    exact congrArg Except.ok (Reading.ext hvalue (length_marked openDict text).symm)

end Exactness

/-- **Values are read exactly.** -/
theorem reads_value (room : Nat) : Reads (Form room) (readValue room) := by
  induction room with
  | zero =>
    have hinner : ∀ inner, 0 = inner + 1 → Reads (Form inner) (readValue inner) :=
      fun inner h => absurd h (by omega)
    exact ⟨readValue_sound hinner, readValue_complete hinner⟩
  | succ room ih =>
    have hinner : ∀ inner, room + 1 = inner + 1 → Reads (Form inner) (readValue inner) := by
      intro inner h
      obtain rfl : room = inner := by omega
      exact ih
    exact ⟨readValue_sound hinner, readValue_complete hinner⟩

/-! ## The room for lists and dictionaries -/

theorem ItemsForm.mono {more : Nat} {text : Bytes} {items : List Value}
    (hform : ∀ {text value}, Form room text value → Form more text value)
    (h : ItemsForm room text items) : ItemsForm more text items := by
  induction items generalizing text with
  | nil =>
    cases h
    exact .nil
  | cons item items ih =>
    cases h with
    | cons htext hrest => exact .cons (hform htext) (ih hrest)

theorem EntriesForm.mono {more : Nat} {text : Bytes} {entries : List (Bytes × Value)}
    (hform : ∀ {text value}, Form room text value → Form more text value)
    (h : EntriesForm room text entries) : EntriesForm more text entries := by
  induction entries generalizing text with
  | nil =>
    cases h
    exact .nil
  | cons entry entries ih =>
    cases h with
    | cons hkey htext hrest => exact .cons hkey (hform htext) (ih hrest)

/-- A form with room for fewer lists and dictionaries is one with room for more. -/
theorem Form.mono {more : Nat} (hroom : room ≤ more) {text : Bytes} {value : Value}
    (h : Form room text value) : Form more text value := by
  -- The induction is on the room, as a list or dictionary leaves less of it to what it holds.
  induction more generalizing room text value with
  | zero =>
    obtain rfl : room = 0 := by omega
    exact h
  | succ more ih =>
    cases h with
    | int n => exact .int n
    | bytes htext => exact .bytes htext
    | list htext => exact .list (htext.mono (ih (by omega)))
    | dict htext => exact .dict (htext.mono (ih (by omega)))

/-- A written form is told from what follows it, whatever room the two forms take. -/
theorem Form.append_inj {other : Nat} {text otherText : Bytes} {value otherValue : Value}
    (h : Form room text value)
    (hother : Form other otherText otherValue) {s t : Bytes} (heq : text ++ s = otherText ++ t) :
    text = otherText ∧ value = otherValue ∧ s = t :=
  (reads_value (max room other)).append_inj (h.mono (Nat.le_max_left _ _))
    (hother.mono (Nat.le_max_right _ _)) heq

/-! ## Decoding -/

theorem decodeAt_list {depth : Nat} (hdepth : depth < maxNesting) (rest : Bytes) :
    decodeAt depth (openList :: rest) =
      (readItems (readValue (maxNesting - (depth + 1))) [] 1 rest).map
        fun reading => (.list reading.value, reading.size) := by
  have hroom : maxNesting - depth = maxNesting - (depth + 1) + 1 := by omega
  rw [decodeAt, hroom, readValue_list]
  cases readItems (readValue (maxNesting - (depth + 1))) [] 1 rest <;> rfl

theorem decodeAt_dict {depth : Nat} (hdepth : depth < maxNesting) (rest : Bytes) :
    decodeAt depth (openDict :: rest) =
      (readEntries (readValue (maxNesting - (depth + 1))) [] 1 rest).map
        fun reading => (dictOfEntries reading.value, reading.size) := by
  have hroom : maxNesting - depth = maxNesting - (depth + 1) + 1 := by omega
  rw [decodeAt, hroom, readValue_dict]
  cases readEntries (readValue (maxNesting - (depth + 1))) [] 1 rest <;> rfl

theorem decodeAt_eq_ok_iff {depth : Nat} {data : Bytes} {value : Value} {size : Nat} :
    decodeAt depth data = .ok (value, size) ↔
      size ≤ data.length ∧ Form (maxNesting - depth) (data.take size) value :=
  (reads_value _).eq_ok_iff

theorem decode_eq_ok_iff {data : Bytes} {value : Value} {size : Nat} :
    decode data = .ok (value, size) ↔
      size ≤ data.length ∧ Form maxNesting (data.take size) value :=
  decodeAt_eq_ok_iff

/-- A form with as much room as is left at a depth is read there as a whole. -/
theorem Form.decodeAt_eq {depth : Nat} {text : Bytes} {value : Value}
    (h : Form (maxNesting - depth) text value) :
    decodeAt depth text = .ok (value, text.length) := by
  rw [decodeAt_eq_ok_iff, List.take_length]
  exact ⟨Nat.le_refl _, h⟩

/-- A written form that stands alone is decoded as a whole. -/
theorem Form.decode_eq {text : Bytes} {value : Value} (h : Form room text value)
    (hroom : room ≤ maxNesting) : decode text = .ok (value, text.length) := by
  have hform : Form (maxNesting - 0) text value := h.mono hroom
  exact hform.decodeAt_eq

/-- **The decoder accepts exactly the written forms**: a front of the octets that is a written
form of a value, with no list or dictionary inside more than sixty-three others, and there is at
most one such front and one such value. -/
theorem decode_eq_ok_iff_form (data : Bytes) :
    (∀ value size, decode data = .ok (value, size) ↔
      size ≤ data.length ∧ Form 64 (data.take size) value) ∧
    {reading : Value × Nat | reading.2 ≤ data.length ∧
      Form 64 (data.take reading.2) reading.1}.Subsingleton := by
  refine ⟨fun value size => decode_eq_ok_iff, ?_⟩
  rintro ⟨value, size⟩ h ⟨value', size'⟩ h'
  have hread := decode_eq_ok_iff.mpr h
  rw [decode_eq_ok_iff.mpr h'] at hread
  exact (Except.ok.inj hread).symm

end Swarm.Bencode
