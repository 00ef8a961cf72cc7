import Swarm.Proofs.Bencode.Acceptance
import Swarm.Proofs.Bencode.Lookup

/-!
# The octets of a value in a written dictionary

The decoder and the lookup of a value's octets walk over the same entries, and of a key that
comes again both keep the last one. So the lookup finds octets just for the keys that the decoded
dictionary has, and they are a written form of the value it has there.

## Main definitions

* `LastEntry`: the last entry of a key, told from the written form

## Main results

* `valueSpan_eq_some_iff`: the lookup finds the last entry of the key
* `valueSpan_agrees_decode`: the lookup and the decoder agree on every octet sequence
-/

namespace Swarm.Bencode

/-- **The last entry of a key** in the dictionary at the front of some octets: where its value
stands and what the value is. No entry behind it has the key. -/
inductive LastEntry (key : Bytes) : Bytes → Span → Value → Prop where
  | mk {before keyText raw after rest : Bytes} {value : Value}
      {earlier later : List (Bytes × Value)} (hbefore : EntriesForm 63 before earlier)
      (hkey : StringForm keyText key) (hraw : Form 63 raw value)
      (hafter : EntriesForm 63 after later) (hlast : ∀ entry ∈ later, entry.1 ≠ key) :
      LastEntry key (openDict :: (before ++ (keyText ++ raw ++ after) ++ closing :: rest))
        ⟨1 + before.length + keyText.length, raw⟩ value

variable {data key : Bytes}

/-! ## The last of the entries with a key -/

section Last

variable {entries : List (Entry Value)}

theorem find?_reverse_eq_some_iff {entry : Entry Value} :
    entries.reverse.find? (·.key == key) = some entry ↔
      entry.key = key ∧ ∃ earlier later, entries = earlier ++ entry :: later ∧
        ∀ other ∈ later, other.key ≠ key := by
  rw [List.find?_eq_some_iff_append]
  constructor
  · rintro ⟨hkey, later, earlier, hentries, hlater⟩
    refine ⟨by simpa using hkey, earlier.reverse, later.reverse, ?_, ?_⟩
    · rw [← List.reverse_reverse entries, hentries]
      simp
    · intro other hother
      simpa using hlater other (List.mem_reverse.mp hother)
  · rintro ⟨hkey, earlier, later, rfl, hlater⟩
    refine ⟨by simpa using hkey, later.reverse, earlier.reverse, by simp, ?_⟩
    intro other hother
    simpa using hlater other (List.mem_reverse.mp hother)

/-- A dictionary holds under a key the value of the last of the entries that fill it. -/
theorem get?_ofList_pair :
    Dict.get? key (Dict.ofList (entries.map Entry.pair)) =
      (entries.reverse.find? (·.key == key)).map (·.value) := by
  rw [Dict.get?_ofList, ← List.map_reverse, List.find?_map, Option.map_map]
  rfl

end Last

/-! ## One walk for two readers -/

theorem decode_dict (rest : Bytes) :
    decode (openDict :: rest) = (readEntries (readValue 63) [] 1 rest).map
      fun reading => (dictOfEntries reading.value, reading.size) :=
  decodeAt_dict (by decide) rest

theorem valueSpan_dict (rest : Bytes) :
    valueSpan (openDict :: rest) key = (readEntries (readValue 63) [] 1 rest).map
      fun reading => (reading.value.reverse.find? (·.key == key)).map
        fun entry => ⟨entry.offset, entry.raw⟩ := by
  rw [valueSpan, entries?, if_pos rfl, show maxNesting - 1 = 63 from rfl]
  cases readEntries (readValue 63) [] 1 rest <;> rfl

/-- Where no dictionary opens, nothing is found. -/
theorem valueSpan_of_head? (h : data.head? ≠ some openDict) :
    valueSpan data key = .ok none := by
  rcases data with _ | ⟨byte, rest⟩
  · rfl
  · have hbyte : byte ≠ openDict := fun heq => h (congrArg some heq)
    rw [valueSpan, entries?, if_neg hbyte]
    rfl

/-- Octets that are no dictionary have the same fault for the decoder and for the lookup. -/
theorem valueSpan_of_decode_eq_error {fault : DecodeError} (hopen : data.head? = some openDict)
    (h : decode data = .error fault) : valueSpan data key = .error fault := by
  obtain ⟨rest, rfl⟩ := List.head?_eq_some_iff.mp hopen
  rw [decode_dict] at h
  rw [valueSpan_dict]
  cases hread : readEntries (readValue 63) [] 1 rest with
  | error other =>
    rw [hread] at h
    exact congrArg Except.error (Except.error.inj h)
  | ok reading =>
    rw [hread] at h
    exact absurd h (by simp [Except.map])

/-- A decoded dictionary was written as entries that fill it. -/
theorem exists_tiles_of_decode {entries : List (Bytes × Value)} {size : Nat}
    (h : decode data = .ok (.dict entries, size)) :
    ∃ text written rest, data = openDict :: (text ++ closing :: rest) ∧
      Tiles 63 1 text written ∧ entries = Dict.ofList (written.map Entry.pair) ∧
      size = text.length + 2 := by
  obtain ⟨hsize, hform⟩ := decode_eq_ok_iff.mp h
  have hlength : (data.take size).length = size := List.length_take_of_le hsize
  generalize htake : data.take size = front at hform hlength
  cases hform with
  | @dict _ text pairs htext =>
    obtain ⟨written, hwritten, rfl⟩ := Tiles.exists_of_entriesForm htext 1
    refine ⟨text, written, data.drop size, ?_, hwritten, rfl, ?_⟩
    · have hdata := List.take_append_drop size data
      rw [htake] at hdata
      simpa using hdata.symm
    · rw [← hlength]
      simp

/-- Looking up in a written dictionary finds the last entry of the key. -/
theorem valueSpan_of_tiles {text : Bytes} {written : List (Entry Value)}
    (h : Tiles 63 1 text written) (rest : Bytes) :
    valueSpan (openDict :: (text ++ closing :: rest)) key =
      .ok ((written.reverse.find? (·.key == key)).map fun entry => ⟨entry.offset, entry.raw⟩) := by
  obtain ⟨_, hread⟩ := readEntries_of_tiles (reads_value 63) h rest
  rw [valueSpan_dict, hread]
  rfl

/-- An entry that no entry with its key follows is the last one of the key. -/
theorem Tiles.lastEntry {text : Bytes} {earlier later : List (Entry Value)} {entry : Entry Value}
    (h : Tiles 63 1 text (earlier ++ entry :: later)) (hkey : entry.key = key)
    (hlast : ∀ other ∈ later, other.key ≠ key) (rest : Bytes) :
    LastEntry key (openDict :: (text ++ closing :: rest)) ⟨entry.offset, entry.raw⟩
      entry.value := by
  obtain ⟨before, after, rfl, hbefore, hkeyText, hoffset, hraw, hafter⟩ := h.split
  rw [hoffset]
  refine .mk hbefore.entriesForm (hkey ▸ hkeyText) hraw hafter.entriesForm ?_
  intro pair hpair
  obtain ⟨other, hother, rfl⟩ := List.mem_map.mp hpair
  exact hlast other hother

/-- **What the lookup finds** is the last entry of the key, and there is no other. -/
theorem valueSpan_eq_some_iff {span : Span} :
    valueSpan data key = .ok (some span) ↔ ∃ value, LastEntry key data span value := by
  constructor
  · intro h
    have hopen : data.head? = some openDict := by
      by_contra hne
      rw [valueSpan_of_head? hne] at h
      exact absurd h (by simp)
    obtain ⟨tail, rfl⟩ := List.head?_eq_some_iff.mp hopen
    rw [valueSpan_dict, map_eq_ok_iff] at h
    obtain ⟨reading, hread, hfind⟩ := h
    obtain ⟨text, rest, rfl, hwritten, -⟩ := (readEntries_eq_ok_iff (reads_value 63)).mp hread
    obtain ⟨entry, hentry, rfl⟩ := Option.map_eq_some_iff.mp hfind
    obtain ⟨hkey, earlier, later, hsplit, hlast⟩ := find?_reverse_eq_some_iff.mp hentry
    rw [hsplit] at hwritten
    exact ⟨entry.value, hwritten.lastEntry hkey hlast rest⟩
  · rintro ⟨value, hlast⟩
    cases hlast with
    | @mk before keyText raw after rest _ earlier later hbefore hkey hraw hafter hlast =>
      -- The forms around the entry give the entries that the walk reads before and after it.
      obtain ⟨front, hfront, -⟩ := Tiles.exists_of_entriesForm hbefore 1
      let entry : Entry Value := ⟨keyText, key, 1 + before.length + keyText.length, raw, value⟩
      obtain ⟨back, hback, hpairs⟩ :=
        Tiles.exists_of_entriesForm hafter (entry.offset + entry.raw.length)
      have hwritten : Tiles 63 1 (before ++ (keyText ++ raw ++ after)) (front ++ entry :: back) :=
        hfront.append (.cons hkey rfl hraw hback)
      have hfind : (front ++ entry :: back).reverse.find? (·.key == key) = some entry := by
        refine find?_reverse_eq_some_iff.mpr ⟨rfl, front, back, rfl, ?_⟩
        intro other hother
        exact hlast _ (hpairs ▸ List.mem_map_of_mem hother)
      rw [valueSpan_of_tiles hwritten, hfind]
      rfl

/-! ## The decoded dictionary and the octets found in it -/

section Decoded

variable {entries : List (Bytes × Value)} {size : Nat}

variable (key) in
/-- What is found in a decoded dictionary is the last of the entries that it was written as. -/
theorem get?_valueSpan_of_decode (h : decode data = .ok (.dict entries, size)) :
    ∃ text written rest, data = openDict :: (text ++ closing :: rest) ∧
      Tiles 63 1 text written ∧ size = text.length + 2 ∧
      Dict.get? key entries = (written.reverse.find? (·.key == key)).map (·.value) ∧
      valueSpan data key = .ok ((written.reverse.find? (·.key == key)).map
        fun entry => ⟨entry.offset, entry.raw⟩) := by
  obtain ⟨text, written, rest, rfl, hwritten, rfl, rfl⟩ := exists_tiles_of_decode h
  exact ⟨text, written, rest, rfl, hwritten, rfl, get?_ofList_pair,
    valueSpan_of_tiles hwritten rest⟩

/-- In a decoded dictionary nothing is found just under the keys it does not have. -/
theorem valueSpan_eq_none_iff (h : decode data = .ok (.dict entries, size)) :
    valueSpan data key = .ok none ↔ Dict.get? key entries = none := by
  obtain ⟨text, written, rest, -, -, -, hget, hspan⟩ := get?_valueSpan_of_decode key h
  rw [hget, hspan]
  simp

/-- Under a key that a decoded dictionary has, the last entry of the key is found, and its octets
lie between the marks of the dictionary. -/
theorem exists_valueSpan_of_get? (h : decode data = .ok (.dict entries, size)) {value : Value}
    (hvalue : Dict.get? key entries = some value) :
    ∃ span : Span, valueSpan data key = .ok (some span) ∧ LastEntry key data span value ∧
      ∃ before after, data.take (size - 1) = before ++ span.raw ++ after ∧
        before.length = span.offset ∧ 1 ≤ span.offset := by
  obtain ⟨text, written, rest, rfl, hwritten, rfl, hget, hspan⟩ :=
    get?_valueSpan_of_decode key h
  rw [hget] at hvalue
  obtain ⟨entry, hfind, rfl⟩ := Option.map_eq_some_iff.mp hvalue
  obtain ⟨hkey, earlier, later, rfl, hlast⟩ := find?_reverse_eq_some_iff.mp hfind
  rw [hfind] at hspan
  obtain ⟨before, after, htext, -, -, hoffset, -, -⟩ := hwritten.split
  refine ⟨⟨entry.offset, entry.raw⟩, hspan, hwritten.lastEntry hkey hlast rest,
    openDict :: (before ++ entry.keyText), after, ?_, ?_, ?_⟩
  · have hsize : text.length + 2 - 1 = (openDict :: text).length := rfl
    rw [hsize, ← List.cons_append, List.take_left, htext]
    simp
  · show _ = entry.offset
    rw [hoffset, List.length_cons, List.length_append]
    omega
  · show 1 ≤ entry.offset
    omega

/-- The octets of the last entry of a key are read as a whole, as its value. -/
theorem LastEntry.decode_raw {span : Span} {value : Value} (h : LastEntry key data span value) :
    decode span.raw = .ok (value, span.raw.length) := by
  obtain ⟨-, -, hraw, -, -⟩ := h
  exact hraw.decode_eq (by decide)

/-- A key has one last entry. -/
theorem LastEntry.unique {span other : Span} {value otherValue : Value}
    (h : LastEntry key data span value) (hother : LastEntry key data other otherValue) :
    span = other ∧ value = otherValue := by
  have hspan := valueSpan_eq_some_iff.mpr ⟨value, h⟩
  rw [valueSpan_eq_some_iff.mpr ⟨otherValue, hother⟩] at hspan
  obtain rfl := Option.some.inj (Except.ok.inj hspan)
  have hvalue := h.decode_raw
  rw [hother.decode_raw] at hvalue
  exact ⟨rfl, (congrArg Prod.fst (Except.ok.inj hvalue)).symm⟩

end Decoded

/-- **The lookup and the decoder agree.** Where no dictionary opens nothing is found; a dictionary
that cannot be decoded has the same fault for both; and in one that is decoded, octets are found
just for the keys that it has, they lie between its marks, they decode as a whole to the value
under the key, and they are those of the last entry of the key. -/
theorem valueSpan_agrees_decode (data key : Bytes) :
    (data.head? ≠ some openDict → valueSpan data key = .ok none) ∧
    (data.head? = some openDict → ∀ fault, decode data = .error fault →
      valueSpan data key = .error fault) ∧
    ∀ entries size, decode data = .ok (.dict entries, size) →
      (valueSpan data key = .ok none ↔ Dict.get? key entries = none) ∧
      ∀ value, Dict.get? key entries = some value → ∃ span : Span,
        valueSpan data key = .ok (some span) ∧
        (∃ before after, data.take (size - 1) = before ++ span.raw ++ after ∧
          before.length = span.offset ∧ 1 ≤ span.offset) ∧
        decode span.raw = .ok (value, span.raw.length) ∧ LastEntry key data span value := by
  refine ⟨valueSpan_of_head?, fun hopen fault => valueSpan_of_decode_eq_error hopen, ?_⟩
  intro entries size h
  refine ⟨valueSpan_eq_none_iff h, ?_⟩
  intro value hvalue
  obtain ⟨span, hspan, hentry, hslice⟩ := exists_valueSpan_of_get? h hvalue
  exact ⟨span, hspan, hslice, hentry.decode_raw, hentry⟩

/-- The last of two entries, with a redundant zero, is found, and none inside another value. -/
example : valueSpan (Bytes.ofString "d1:kd1:ki1ee01:ki2ee") (Bytes.ofString "k") =
    .ok (some ⟨16, Bytes.ofString "i2e"⟩) := by
  cbv

end Swarm.Bencode
