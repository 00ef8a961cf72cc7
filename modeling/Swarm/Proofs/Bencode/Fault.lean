import Swarm.Proofs.Bencode.Nesting

/-!
# Where reading stops

Octets that do not start with a value have a first part that cannot be read: the reader gets to it
through lists and dictionaries whose items and entries it could read, and there a value raises a
fault of its own. The fault that is reported is that one, in a wrapper for each of the lists and
dictionaries on the way.

## Main definitions

* `Reaches`: which octets the reader gets to, inside which lists and dictionaries
* `KeyFault`, `OwnFault`: the faults that a value raises itself, and not for what lies inside it

## Main results

* `readItems_eq_error_iff`, `readEntries_eq_error_iff`: the faults of a list and of a dictionary
* `readValue_eq_error_iff`: the faults that are reported
-/

namespace Swarm.Bencode

variable {room : Nat} {item : Bytes → Except DecodeError (Reading Value)}

/-- What a reader that is exact leaves behind the text that it takes. -/
theorem Reads.exists_append_drop {α : Type} {form : Bytes → α → Prop}
    {read : Bytes → Except DecodeError (Reading α)} (h : Reads form read) {data : Bytes}
    {reading : Reading α} (hread : read data = .ok reading) :
    ∃ text, data = text ++ data.drop reading.size ∧ form text reading.value := by
  obtain ⟨text, rest, rfl, hsize, htext⟩ := h.sound hread
  exact ⟨text, by rw [hsize, List.drop_left], htext⟩

/-! ## The faults of strings and integers -/

theorem eq_or_eq_of_readString {data : Bytes} {fault : DecodeError}
    (h : readString data = .error fault) : fault = .malformedString ∨ fault = .truncatedString := by
  cases hdrop : data.dropWhile (· != colon) with
  | nil => simp_all [readString]
  | cons byte rest =>
    cases hlength : Decimal.nat? (data.takeWhile (· != colon)) with
    | none => simp_all [readString]
    | some length =>
      simp only [readString, hdrop, hlength] at h
      split at h
      · cases h
      · exact .inr (Except.error.inj h).symm

theorem eq_or_eq_of_readInteger {data : Bytes} {fault : DecodeError}
    (h : readInteger data = .error fault) :
    fault = .unterminatedInteger ∨ fault = .leadingZero ∨ fault = .negativeZero ∨
      ∃ body, fault = .invalidDigits body := by
  cases hdrop : data.dropWhile (· != closing) with
  | nil => simp_all [readInteger]
  | cons byte rest =>
    simp only [readInteger, hdrop] at h
    split at h
    · exact .inr (.inl (Except.error.inj h).symm)
    · split at h
      · exact .inr (.inr (.inl (Except.error.inj h).symm))
      · split at h
        · cases h
        · exact .inr (.inr (.inr ⟨_, (Except.error.inj h).symm⟩))

/-! ## The faults of a list -/

/-- **The faults of a list** are that it does not end, and that of its first item that cannot be
read. -/
theorem readItems_eq_error_iff (hitem : Reads (Form room) item) {found : List Value} {used : Nat}
    {data : Bytes} {fault : DecodeError} :
    readItems item found used data = .error fault ↔
      ∃ text items, ItemsForm room text items ∧
        (data = text ∧ fault = .unterminatedList ∨
          ∃ byte rest inner, data = text ++ byte :: rest ∧ byte ≠ closing ∧
            item (byte :: rest) = .error inner ∧ fault = .listItem inner) := by
  constructor
  · intro h
    -- The loop fails at the end of the octets and at an item, and later where what follows fails.
    fun_induction readItems item found used data with
    | case1 found used =>
      exact ⟨[], [], .nil, .inl ⟨rfl, (Except.error.inj h).symm⟩⟩
    | case2 => exact absurd h (by simp)
    | case3 found used byte rest hbyte inner hinner =>
      exact ⟨[], [], .nil, .inr ⟨byte, rest, inner, rfl, hbyte, hinner, (Except.error.inj h).symm⟩⟩
    | case4 found used byte rest hbyte first hfirst ih =>
      obtain ⟨front, hdata, hform⟩ := hitem.exists_append_drop hfirst
      obtain ⟨text, items, hitems, hstop⟩ := ih h
      refine ⟨front ++ text, first.value :: items, .cons hform hitems, ?_⟩
      rw [hdata]
      rcases hstop with ⟨hend, hfault⟩ | ⟨last, after, inner, hafter, hlast, hinner, hfault⟩
      · exact .inl ⟨by rw [hend], hfault⟩
      · exact .inr ⟨last, after, inner, by rw [hafter, List.append_assoc], hlast, hinner, hfault⟩
  · rintro ⟨text, items, hitems, ⟨rfl, rfl⟩ | ⟨byte, rest, inner, rfl, hbyte, hinner, rfl⟩⟩
    · rw [← List.append_nil data, readItems_append hitem hitems, readItems]
    · rw [readItems_append hitem hitems, readItems_fault hbyte hinner]

/-! ## The faults of a dictionary -/

/-- **The faults where a key or the closing octet is due**: there is neither, or there is a key
with nothing behind it. -/
inductive KeyFault : Bytes → DecodeError → Prop where
  | missing : KeyFault [] .unterminatedDictionary
  | other {byte : UInt8} {rest : Bytes} (hbyte : byte ≠ closing)
      (hdigit : Bytes.isDigit byte = false) : KeyFault (byte :: rest) .nonStringKey
  | string {byte : UInt8} {rest : Bytes} {fault : DecodeError} (hdigit : Bytes.isDigit byte = true)
      (h : readString (byte :: rest) = .error fault) : KeyFault (byte :: rest) fault
  | alone {keyText key : Bytes} (hkey : StringForm keyText key) :
      KeyFault keyText .unterminatedDictionary

theorem readEntries_of_keyFault {found : List (Entry Value)} {used : Nat} {data : Bytes}
    {fault : DecodeError} (h : KeyFault data fault) :
    readEntries item found used data = .error fault := by
  cases h with
  | missing => rw [readEntries]
  | other hbyte hdigit => rw [readEntries, if_neg hbyte, if_pos (by simp [hdigit])]
  | string hdigit h =>
    rw [readEntries, if_neg (ne_closing_of_isDigit hdigit), if_neg (by simp [hdigit]), h]
  | alone hkey =>
    obtain ⟨_, hread⟩ := reads_string.complete hkey []
    obtain ⟨byte, tail, rfl, hdigit⟩ := hkey.head_isDigit
    rw [List.append_nil] at hread
    rw [readEntries, if_neg (ne_closing_of_isDigit hdigit), if_neg (by simp [hdigit]), hread]
    simp

/-- **The faults of a dictionary** are those where a key or its closing octet is due, and that of
the first value that cannot be read. -/
theorem readEntries_eq_error_iff (hitem : Reads (Form room) item) {found : List (Entry Value)}
    {used : Nat} {data : Bytes} {fault : DecodeError} :
    readEntries item found used data = .error fault ↔
      ∃ text entries rest, data = text ++ rest ∧ EntriesForm room text entries ∧
        (KeyFault rest fault ∨
          ∃ keyText key byte after inner, rest = keyText ++ byte :: after ∧
            StringForm keyText key ∧ item (byte :: after) = .error inner ∧
            fault = .dictionaryValue inner) := by
  constructor
  · intro h
    fun_induction readEntries item found used data with
    | case1 found used =>
      obtain rfl := Except.error.inj h
      exact ⟨[], [], [], rfl, .nil, .inl .missing⟩
    | case2 => exact absurd h (by simp)
    | case3 found used byte rest hbyte hdigit =>
      obtain rfl := Except.error.inj h
      exact ⟨[], [], _, rfl, .nil, .inl (.other hbyte (by simpa using hdigit))⟩
    | case4 found used byte rest hbyte hdigit inner hinner =>
      obtain rfl := Except.error.inj h
      exact ⟨[], [], _, rfl, .nil, .inl (.string (by simpa using hdigit) hinner)⟩
    | case5 found used byte rest hbyte hdigit key hkey afterKey hempty =>
      obtain rfl := Except.error.inj h
      obtain ⟨keyText, hdata, hform⟩ := reads_string.exists_append_drop hkey
      rw [show (byte :: rest).drop key.size = [] from List.isEmpty_iff.mp hempty,
        List.append_nil] at hdata
      exact ⟨[], [], _, rfl, .nil, .inl (hdata ▸ .alone hform)⟩
    | case6 found used byte rest hbyte hdigit key hkey afterKey hafter inner hinner =>
      obtain rfl := Except.error.inj h
      obtain ⟨keyText, hdata, hform⟩ := reads_string.exists_append_drop hkey
      obtain ⟨first, after, hcons⟩ := List.exists_cons_of_ne_nil (by simpa using hafter)
      rw [hcons] at hinner
      exact ⟨[], [], _, rfl, .nil, .inr ⟨keyText, key.value, first, after, inner,
        hdata.trans (congrArg _ hcons), hform, hinner, rfl⟩⟩
    | case7 found used byte rest hbyte hdigit key hkey afterKey hafter first hfirst entry ih =>
      obtain ⟨keyText, hdata, hkeyForm⟩ := reads_string.exists_append_drop hkey
      obtain ⟨raw, hraw, hrawForm⟩ := hitem.exists_append_drop hfirst
      obtain ⟨text, entries, last, hlast, hentries, hstop⟩ := ih h
      refine ⟨keyText ++ raw ++ text, (key.value, first.value) :: entries, last, ?_,
        .cons hkeyForm hrawForm hentries, hstop⟩
      rw [hdata, List.append_assoc, List.append_assoc, ← hlast]
      exact congrArg _ hraw
  · rintro ⟨text, entries, rest, rfl, hentries, hstop⟩
    obtain ⟨tiles, htiles, -⟩ := Tiles.exists_of_entriesForm hentries used
    rw [readEntries_append hitem htiles]
    rcases hstop with hkey | ⟨keyText, key, byte, after, inner, rfl, hkey, hinner, rfl⟩
    · exact readEntries_of_keyFault hkey
    · exact readEntries_fault hkey (List.cons_ne_nil _ _) hinner

/-! ## The faults of a value -/

/-- **The faults of a value's own octets**, and not of what lies inside it. -/
inductive OwnFault (room : Nat) : Bytes → DecodeError → Prop where
  | empty : OwnFault room [] .emptyInput
  | unknown {byte : UInt8} {rest : Bytes} (hdigit : Bytes.isDigit byte = false)
      (hint : byte ≠ openInt) (hlist : byte ≠ openList) (hdict : byte ≠ openDict) :
      OwnFault room (byte :: rest) (.unknownType byte)
  | string {byte : UInt8} {rest : Bytes} {fault : DecodeError} (hdigit : Bytes.isDigit byte = true)
      (h : readString (byte :: rest) = .error fault) : OwnFault room (byte :: rest) fault
  | integer {rest : Bytes} {fault : DecodeError} (h : readInteger rest = .error fault) :
      OwnFault room (openInt :: rest) fault
  | tooDeep {byte : UInt8} {rest : Bytes} (hroom : room = 0)
      (hopen : byte = openList ∨ byte = openDict) : OwnFault room (byte :: rest) .nestingTooDeep
  | list {inner : Nat} {text : Bytes} {items : List Value} (hroom : room = inner + 1)
      (htext : ItemsForm inner text items) : OwnFault room (openList :: text) .unterminatedList
  | dict {inner : Nat} {text rest : Bytes} {entries : List (Bytes × Value)} {fault : DecodeError}
      (hroom : room = inner + 1) (htext : EntriesForm inner text entries)
      (hkey : KeyFault rest fault) : OwnFault room (openDict :: (text ++ rest)) fault

/-- **The way of the reader** to the octets that it cannot read: through lists and dictionaries,
past the items and entries that it can read, as long as there is room. -/
inductive Reaches : Nat → Bytes → List Container → Nat → Bytes → Prop where
  | here {room : Nat} {data : Bytes} : Reaches room data [] room data
  | item {room inner : Nat} {text rest data : Bytes} {items : List Value} {byte : UInt8}
      {around : List Container} (htext : ItemsForm room text items) (hbyte : byte ≠ closing)
      (h : Reaches room (byte :: rest) around inner data) :
      Reaches (room + 1) (openList :: (text ++ byte :: rest)) (.list :: around) inner data
  | value {room inner : Nat} {text keyText key rest data : Bytes} {entries : List (Bytes × Value)}
      {byte : UInt8} {around : List Container} (htext : EntriesForm room text entries)
      (hkey : StringForm keyText key) (h : Reaches room (byte :: rest) around inner data) :
      Reaches (room + 1) (openDict :: (text ++ (keyText ++ byte :: rest))) (.dict :: around) inner
        data

theorem OwnFault.readValue_eq {data : Bytes} {fault : DecodeError} (h : OwnFault room data fault) :
    readValue room data = .error fault := by
  cases h with
  | empty => exact readValue_nil
  | unknown hdigit hint hlist hdict => exact readValue_unknown hdigit hint hlist hdict _
  | string hdigit h => rw [readValue_of_isDigit hdigit, map_eq_error_iff, h]
  | integer h => rw [readValue_int, map_eq_error_iff, h]
  | tooDeep hroom hopen =>
    subst hroom
    rcases hopen with rfl | rfl
    · exact readValue_list_zero _
    · exact readValue_dict_zero _
  | list hroom htext =>
    subst hroom
    rw [readValue_list, map_eq_error_iff, readItems_eq_error_iff (reads_value _)]
    exact ⟨_, _, htext, .inl ⟨rfl, rfl⟩⟩
  | dict hroom htext hkey =>
    subst hroom
    rw [readValue_dict, map_eq_error_iff, readEntries_eq_error_iff (reads_value _)]
    exact ⟨_, _, _, rfl, htext, .inl hkey⟩

/-- What the reader cannot read on its way is reported in the wrappers of what it is inside. -/
theorem Reaches.readValue_eq {inner : Nat} {data rest : Bytes} {around : List Container}
    {fault : DecodeError} (h : Reaches room data around inner rest)
    (hfault : readValue inner rest = .error fault) :
    readValue room data = .error (fault.inside around) := by
  induction h with
  | here => exact hfault
  | item htext hbyte _ ih =>
    rw [readValue_list, map_eq_error_iff, readItems_eq_error_iff (reads_value _)]
    exact ⟨_, _, htext, .inr ⟨_, _, _, rfl, hbyte, ih hfault, rfl⟩⟩
  | value htext hkey _ ih =>
    rw [readValue_dict, map_eq_error_iff, readEntries_eq_error_iff (reads_value _)]
    exact ⟨_, _, _, rfl, htext, .inr ⟨_, _, _, _, _, rfl, hkey, ih hfault, rfl⟩⟩

/-- **Where reading stops**: the reader gets to octets where a value raises a fault itself, which
is reported in a wrapper for each list and dictionary on the way. -/
def Stops (room : Nat) (data : Bytes) (fault : DecodeError) : Prop :=
  ∃ around inner rest leaf, Reaches room data around inner rest ∧ OwnFault inner rest leaf ∧
    fault = leaf.inside around

theorem OwnFault.stops {data : Bytes} {fault : DecodeError} (h : OwnFault room data fault) :
    Stops room data fault :=
  ⟨[], room, data, fault, .here, h, rfl⟩

/-- One step of the induction: what is read inside the next list or dictionary has one less room. -/
theorem stops_of_readValue
    (hinner : ∀ inner, room = inner + 1 → ∀ {data : Bytes} {fault : DecodeError},
      readValue inner data = .error fault → Stops inner data fault)
    {data : Bytes} {fault : DecodeError} (h : readValue room data = .error fault) :
    Stops room data fault := by
  rcases data with _ | ⟨byte, data⟩
  · rw [readValue_nil, Except.error.injEq] at h
    exact h ▸ OwnFault.empty.stops
  by_cases hdigit : Bytes.isDigit byte = true
  · rw [readValue_of_isDigit hdigit, map_eq_error_iff] at h
    exact (OwnFault.string hdigit h).stops
  by_cases hint : byte = openInt
  · subst hint
    rw [readValue_int, map_eq_error_iff] at h
    exact (OwnFault.integer h).stops
  by_cases hlist : byte = openList
  · subst hlist
    rcases room with _ | room
    · rw [readValue_list_zero, Except.error.injEq] at h
      exact h ▸ (OwnFault.tooDeep rfl (.inl rfl)).stops
    · rw [readValue_list, map_eq_error_iff, readItems_eq_error_iff (reads_value room)] at h
      obtain ⟨text, items, htext, ⟨rfl, rfl⟩ | ⟨first, after, fault, rfl, hfirst, hread, rfl⟩⟩ := h
      · exact (OwnFault.list rfl htext).stops
      · obtain ⟨around, inner, rest, leaf, hreach, hleaf, rfl⟩ := hinner room rfl hread
        exact ⟨_, inner, rest, leaf, .item htext hfirst hreach, hleaf, rfl⟩
  by_cases hdict : byte = openDict
  · subst hdict
    rcases room with _ | room
    · rw [readValue_dict_zero, Except.error.injEq] at h
      exact h ▸ (OwnFault.tooDeep rfl (.inr rfl)).stops
    · rw [readValue_dict, map_eq_error_iff, readEntries_eq_error_iff (reads_value room)] at h
      obtain ⟨text, entries, after, rfl, htext,
        hkey | ⟨keyText, key, first, tail, fault, rfl, hkey, hread, rfl⟩⟩ := h
      · exact (OwnFault.dict rfl htext hkey).stops
      · obtain ⟨around, inner, rest, leaf, hreach, hleaf, rfl⟩ := hinner room rfl hread
        exact ⟨_, inner, rest, leaf, .value htext hkey hreach, hleaf, rfl⟩
  · have hnone : Bytes.isDigit byte = false := by simpa using hdigit
    rw [readValue_unknown hnone hint hlist hdict, Except.error.injEq] at h
    exact h ▸ (OwnFault.unknown hnone hint hlist hdict).stops

/-- **What is reported** for octets that cannot be read is told by where reading stops. -/
theorem readValue_eq_error_iff {data : Bytes} {fault : DecodeError} :
    readValue room data = .error fault ↔ Stops room data fault := by
  constructor
  · intro h
    induction room generalizing data fault with
    | zero => exact stops_of_readValue (fun inner hroom => absurd hroom (by omega)) h
    | succ room ih =>
      refine stops_of_readValue (fun inner hroom => ?_) h
      obtain rfl : room = inner := by omega
      exact ih
  · rintro ⟨around, inner, rest, leaf, hreach, hleaf, rfl⟩
    exact hreach.readValue_eq hleaf.readValue_eq

theorem decodeAt_eq_error_iff {depth : Nat} {data : Bytes} {fault : DecodeError} :
    decodeAt depth data = .error fault ↔ Stops (maxNesting - depth) data fault := by
  rw [decodeAt, map_eq_error_iff, readValue_eq_error_iff]

theorem decode_eq_error_iff {data : Bytes} {fault : DecodeError} :
    decode data = .error fault ↔ Stops maxNesting data fault :=
  decodeAt_eq_error_iff

end Swarm.Bencode
