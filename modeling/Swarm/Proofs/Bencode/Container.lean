import Swarm.Proofs.Bencode.Scalar

/-!
# Reading the items of a list and the entries of a dictionary

One round of a loop takes one item, or one entry, and goes on with what follows it. So a loop
passes over the items, or entries, that stand in front, and what it gives in the end is made of
texts that tile the octets it took. Both hold for every reader of items that is exact.

## Main definitions

* `Tiles`: the entries of a dictionary as they were written, one after the other

## Main results

* `readItems_append`, `readEntries_append`: the loops pass over what stands in front
* `readItems_eq_ok_iff`, `readEntries_eq_ok_iff`: what the loops succeed on, and with what
-/

namespace Swarm.Bencode

variable {room : Nat} {item : Bytes → Except DecodeError (Reading Value)}

/-- A digit is not the closing octet. -/
theorem ne_closing_of_isDigit {byte : UInt8} (h : Bytes.isDigit byte = true) : byte ≠ closing := by
  rintro rfl
  exact absurd h (by decide)

/-- No written form of a value starts with the closing octet. -/
theorem Form.exists_cons {text : Bytes} {value : Value} (h : Form room text value) :
    ∃ byte rest, text = byte :: rest ∧ byte ≠ closing := by
  cases h with
  | int n => exact ⟨openInt, _, rfl, by decide⟩
  | bytes htext =>
    obtain ⟨byte, rest, rfl, hdigit⟩ := htext.head_isDigit
    exact ⟨byte, rest, rfl, ne_closing_of_isDigit hdigit⟩
  | list htext => exact ⟨openList, _, rfl, by decide⟩
  | dict htext => exact ⟨openDict, _, rfl, by decide⟩

theorem Form.ne_nil {text : Bytes} {value : Value} (h : Form room text value) : text ≠ [] := by
  obtain ⟨byte, rest, rfl, -⟩ := h.exists_cons
  exact List.cons_ne_nil _ _

/-! ## Items -/

section Items

variable {found : List Value} {used : Nat}

theorem readItems_closing (rest : Bytes) :
    readItems item found used (closing :: rest) =
      .ok ⟨found.reverse, used + 1, Nat.succ_pos used⟩ := by
  rw [readItems, if_pos rfl]

/-- **One round**: an item that stands in front is taken. -/
theorem readItems_item (hitem : Reads (Form room) item) {text : Bytes} {value : Value}
    (htext : Form room text value) (rest : Bytes) :
    readItems item found used (text ++ rest) =
      readItems item (value :: found) (used + text.length) rest := by
  obtain ⟨_, hread⟩ := hitem.complete htext rest
  obtain ⟨byte, tail, rfl, hbyte⟩ := htext.exists_cons
  rw [List.cons_append] at hread ⊢
  rw [readItems, if_neg hbyte, hread]
  show readItems item _ _ ((byte :: (tail ++ rest)).drop (byte :: tail).length) = _
  rw [← List.cons_append, List.drop_left]

/-- A fault of an item is reported in the wrapper of the list. -/
theorem readItems_fault {byte : UInt8} {rest : Bytes} {fault : DecodeError}
    (hbyte : byte ≠ closing) (h : item (byte :: rest) = .error fault) :
    readItems item found used (byte :: rest) = .error (.listItem fault) := by
  rw [readItems, if_neg hbyte, h]

/-- **All rounds**: the items that stand in front are taken. -/
theorem readItems_append (hitem : Reads (Form room) item) {text : Bytes} {items : List Value}
    (htext : ItemsForm room text items) (rest : Bytes) :
    readItems item found used (text ++ rest) =
      readItems item (items.reverse ++ found) (used + text.length) rest := by
  induction items generalizing text found used with
  | nil =>
    cases htext
    rfl
  | cons value items ih =>
    cases htext with
    | @cons _ first following _ _ hfirst hrest =>
      rw [List.append_assoc, readItems_item hitem hfirst, ih hrest, List.reverse_cons,
        List.append_assoc, List.singleton_append, List.length_append, Nat.add_assoc]

/-- What the loop has read tiles the octets that it took. -/
theorem readItems_sound (hitem : Reads (Form room) item) {data : Bytes}
    {reading : Reading (List Value)} (h : readItems item found used data = .ok reading) :
    ∃ text items rest, data = text ++ closing :: rest ∧ ItemsForm room text items ∧
      reading.value = found.reverse ++ items ∧ reading.size = used + text.length + 1 := by
  -- The loop succeeds at the closing octet, and after an item where what follows succeeds.
  fun_induction readItems item found used data with
  | case1 => exact absurd h (by simp)
  | case2 found used rest =>
    obtain rfl := Except.ok.inj h
    exact ⟨[], [], rest, rfl, .nil, (List.append_nil _).symm, rfl⟩
  | case3 => exact absurd h (by simp)
  | case4 found used byte rest hbyte first hfirst ih =>
    obtain ⟨front, after, hdata, hsize, hform⟩ := hitem.sound hfirst
    obtain ⟨text, items, last, htail, hitems, hvalue, hused⟩ := ih h
    rw [hdata, hsize, List.drop_left] at htail
    refine ⟨front ++ text, first.value :: items, last, ?_, .cons hform hitems, ?_, ?_⟩
    · rw [hdata, htail, List.append_assoc]
    · rw [hvalue, List.reverse_cons, List.append_assoc, List.singleton_append]
    · rw [hused, hsize, List.length_append]
      omega

/-- **The items of a list are read exactly**, up to the closing octet. -/
theorem readItems_eq_ok_iff (hitem : Reads (Form room) item) {data : Bytes}
    {reading : Reading (List Value)} :
    readItems item [] used data = .ok reading ↔
      ∃ text rest, data = text ++ closing :: rest ∧ ItemsForm room text reading.value ∧
        reading.size = used + text.length + 1 := by
  constructor
  · intro h
    obtain ⟨text, items, rest, hdata, hitems, hvalue, hsize⟩ := readItems_sound hitem h
    exact ⟨text, rest, hdata, by rwa [hvalue, List.reverse_nil, List.nil_append], hsize⟩
  · rintro ⟨text, rest, rfl, hitems, hsize⟩
    rw [readItems_append hitem hitems, readItems_closing]
    exact congrArg Except.ok (Reading.ext (by simp) hsize.symm)

/-- Items that the closing octet follows are read. -/
theorem readItems_of_itemsForm (hitem : Reads (Form room) item) {text : Bytes}
    {items : List Value} (htext : ItemsForm room text items) (rest : Bytes) :
    ∃ hpos, readItems item [] used (text ++ closing :: rest) =
      .ok ⟨items, used + text.length + 1, hpos⟩ :=
  ⟨Nat.succ_pos _, (readItems_eq_ok_iff hitem).mpr ⟨text, rest, rfl, htext, rfl⟩⟩

end Items

/-! ## Entries -/

/-- The entries of a dictionary as they were written, one after the other, the first of them from
an offset on. -/
inductive Tiles (room : Nat) : Nat → Bytes → List (Entry Value) → Prop where
  | nil {start : Nat} : Tiles room start [] []
  | cons {start : Nat} {rest : Bytes} {entry : Entry Value} {entries : List (Entry Value)}
      (hkey : StringForm entry.keyText entry.key)
      (hoffset : entry.offset = start + entry.keyText.length)
      (hraw : Form room entry.raw entry.value)
      (hrest : Tiles room (entry.offset + entry.raw.length) rest entries) :
      Tiles room start (entry.keyText ++ entry.raw ++ rest) (entry :: entries)

/-- The key and the value of an entry. -/
def Entry.pair (entry : Entry Value) : Bytes × Value :=
  (entry.key, entry.value)

namespace Tiles

variable {start : Nat} {text : Bytes}

theorem entriesForm {entries : List (Entry Value)} (h : Tiles room start text entries) :
    EntriesForm room text (entries.map Entry.pair) := by
  induction h with
  | nil => exact .nil
  | cons hkey _ hraw _ ih => exact .cons hkey hraw ih

/-- Whatever is a row of entries tiles as the entries of some reading. -/
theorem exists_of_entriesForm {pairs : List (Bytes × Value)} (h : EntriesForm room text pairs)
    (start : Nat) :
    ∃ entries, Tiles room start text entries ∧ entries.map Entry.pair = pairs := by
  induction pairs generalizing text start with
  | nil =>
    cases h
    exact ⟨[], .nil, rfl⟩
  | cons pair pairs ih =>
    cases h with
    | @cons _ keyText raw rest key value _ hkey hraw hrest =>
      obtain ⟨entries, htiles, rfl⟩ := ih hrest (start + keyText.length + raw.length)
      let entry : Entry Value := ⟨keyText, key, start + keyText.length, raw, value⟩
      have hentryKey : StringForm entry.keyText entry.key := hkey
      exact ⟨entry :: entries, .cons hentryKey rfl hraw htiles, rfl⟩

/-- Rows of entries one behind the other are a row of entries. -/
theorem append {following : Bytes} {earlier later : List (Entry Value)}
    (h : Tiles room start text earlier)
    (hlater : Tiles room (start + text.length) following later) :
    Tiles room start (text ++ following) (earlier ++ later) := by
  induction h with
  | nil => exact hlater
  | cons hkey hoffset hraw _ ih =>
    rw [List.append_assoc]
    refine .cons hkey hoffset hraw (ih ?_)
    -- The later row starts where the earlier one ends, counted from either start.
    convert hlater using 1
    simp only [List.length_append]
    omega

/-- Where an entry stands: between the texts of those before it and of those after it. -/
theorem split {earlier later : List (Entry Value)} {entry : Entry Value}
    (h : Tiles room start text (earlier ++ entry :: later)) :
    ∃ before after, text = before ++ (entry.keyText ++ entry.raw ++ after) ∧
      Tiles room start before earlier ∧ StringForm entry.keyText entry.key ∧
      entry.offset = start + before.length + entry.keyText.length ∧
      Form room entry.raw entry.value ∧
      Tiles room (entry.offset + entry.raw.length) after later := by
  induction earlier generalizing start text with
  | nil =>
    cases h with
    | cons hkey hoffset hraw hrest =>
      exact ⟨[], _, rfl, .nil, hkey, hoffset, hraw, hrest⟩
  | cons first earlier ih =>
    cases h with
    | cons hkey hoffset hraw hrest =>
      obtain ⟨before, after, rfl, hbefore, hkey', hoffset', hraw', hafter⟩ := ih hrest
      refine ⟨_, after, (List.append_assoc _ _ _).symm, .cons hkey hoffset hraw hbefore, hkey',
        ?_, hraw', hafter⟩
      simp only [List.length_append]
      omega

end Tiles

section Entries

variable {found : List (Entry Value)} {used : Nat}

theorem readEntries_closing (rest : Bytes) :
    readEntries item found used (closing :: rest) =
      .ok ⟨found.reverse, used + 1, Nat.succ_pos used⟩ := by
  rw [readEntries, if_pos rfl]

/-- What a round does once it has read a key that more octets follow. -/
theorem readEntries_key {keyText key data : Bytes} (hkey : StringForm keyText key)
    (hdata : data ≠ []) :
    readEntries item found used (keyText ++ data) =
      match item data with
      | .error fault => .error (.dictionaryValue fault)
      | .ok reading =>
        readEntries item
          (⟨keyText, key, used + keyText.length, data.take reading.size, reading.value⟩ :: found)
          (used + keyText.length + reading.size) (data.drop reading.size) := by
  obtain ⟨_, hread⟩ := reads_string.complete hkey data
  obtain ⟨byte, tail, rfl, hdigit⟩ := hkey.head_isDigit
  have hdrop : (byte :: (tail ++ data)).drop (byte :: tail).length = data := by
    rw [← List.cons_append, List.drop_left]
  have htake : (byte :: (tail ++ data)).take (byte :: tail).length = byte :: tail := by
    rw [← List.cons_append, List.take_left]
  have hempty : data.isEmpty = false := by simpa using hdata
  rw [List.cons_append] at hread ⊢
  rw [readEntries, if_neg (ne_closing_of_isDigit hdigit), if_neg (by simp [hdigit]), hread]
  simp only [hdrop, htake, hempty, Bool.false_eq_true, if_false]
  cases item data <;> rfl

/-- **One round**: an entry that stands in front is taken. -/
theorem readEntries_entry (hitem : Reads (Form room) item) {keyText key raw : Bytes}
    {value : Value} (hkey : StringForm keyText key) (hraw : Form room raw value) (rest : Bytes) :
    readEntries item found used (keyText ++ raw ++ rest) =
      readEntries item (⟨keyText, key, used + keyText.length, raw, value⟩ :: found)
        (used + keyText.length + raw.length) rest := by
  obtain ⟨_, hvalue⟩ := hitem.complete hraw rest
  have hne : raw ++ rest ≠ [] := List.append_ne_nil_of_left_ne_nil hraw.ne_nil rest
  rw [List.append_assoc, readEntries_key hkey hne, hvalue]
  simp only [List.take_left, List.drop_left]

/-- A fault of a value is reported in the wrapper of the dictionary. -/
theorem readEntries_fault {keyText key data : Bytes} {fault : DecodeError}
    (hkey : StringForm keyText key) (hdata : data ≠ []) (h : item data = .error fault) :
    readEntries item found used (keyText ++ data) = .error (.dictionaryValue fault) := by
  rw [readEntries_key hkey hdata, h]

/-- **All rounds**: the entries that stand in front are taken. -/
theorem readEntries_append (hitem : Reads (Form room) item) {text : Bytes}
    {entries : List (Entry Value)} (htext : Tiles room used text entries) (rest : Bytes) :
    readEntries item found used (text ++ rest) =
      readEntries item (entries.reverse ++ found) (used + text.length) rest := by
  induction entries generalizing text found used with
  | nil =>
    cases htext
    rfl
  | cons entry entries ih =>
    cases htext with
    | @cons _ following _ _ hkey hoffset hraw hrest =>
      obtain ⟨keyText, key, offset, raw, value⟩ := entry
      simp only at hkey hoffset hraw hrest ⊢
      subst hoffset
      rw [List.append_assoc _ following, readEntries_entry hitem hkey hraw, ih hrest,
        List.reverse_cons, List.append_assoc entries.reverse, List.singleton_append]
      simp only [List.length_append, Nat.add_assoc]

/-- What the loop has read tiles the octets that it took. -/
theorem readEntries_sound (hitem : Reads (Form room) item) {data : Bytes}
    {reading : Reading (List (Entry Value))}
    (h : readEntries item found used data = .ok reading) :
    ∃ text entries rest, data = text ++ closing :: rest ∧ Tiles room used text entries ∧
      reading.value = found.reverse ++ entries ∧ reading.size = used + text.length + 1 := by
  -- The loop succeeds at the closing octet, and after an entry where what follows succeeds.
  fun_induction readEntries item found used data with
  | case1 => exact absurd h (by simp)
  | case2 found used rest =>
    obtain rfl := Except.ok.inj h
    exact ⟨[], [], rest, rfl, .nil, (List.append_nil _).symm, rfl⟩
  | case3 => exact absurd h (by simp)
  | case4 => exact absurd h (by simp)
  | case5 => exact absurd h (by simp)
  | case6 => exact absurd h (by simp)
  | case7 found used byte rest hbyte hdigit key hkey afterKey hafter first hfirst entry ih =>
    obtain ⟨keyText, after, hdata, hkeySize, hkeyForm⟩ := reads_string.sound hkey
    obtain ⟨text, entries, last, htail, hentries, hvalue, hused⟩ := ih h
    have hafterKey : afterKey = after := by
      simp only [afterKey, hdata, hkeySize, List.drop_left]
    obtain ⟨raw, behind, hafterText, hsize, hraw⟩ := hitem.sound hfirst
    -- What the entry records are the texts that the two readers took.
    have hkeyText : entry.keyText = keyText := by
      simp only [entry, hdata, hkeySize, List.take_left]
    have hrawText : entry.raw = raw := by
      simp only [entry, hafterText, hsize, List.take_left]
    rw [hafterText, hsize, List.drop_left] at htail
    refine ⟨entry.keyText ++ entry.raw ++ text, entry :: entries, last, ?_, .cons ?_ ?_ ?_ ?_,
      ?_, ?_⟩
    · rw [hdata, hkeyText, hrawText, ← hafterKey, hafterText, htail]
      simp only [List.append_assoc]
    · rw [hkeyText]
      exact hkeyForm
    · rw [hkeyText, ← hkeySize]
    · rw [hrawText]
      exact hraw
    · rw [hrawText, ← hsize]
      exact hentries
    · rw [hvalue, List.reverse_cons, List.append_assoc, List.singleton_append]
    · rw [hused, hkeySize, hsize, List.length_append, List.length_append, hkeyText, hrawText]
      omega

/-- **The entries of a dictionary are read exactly**, up to the closing octet. -/
theorem readEntries_eq_ok_iff (hitem : Reads (Form room) item) {data : Bytes}
    {reading : Reading (List (Entry Value))} :
    readEntries item [] used data = .ok reading ↔
      ∃ text rest, data = text ++ closing :: rest ∧ Tiles room used text reading.value ∧
        reading.size = used + text.length + 1 := by
  constructor
  · intro h
    obtain ⟨text, entries, rest, hdata, hentries, hvalue, hsize⟩ := readEntries_sound hitem h
    exact ⟨text, rest, hdata, by rwa [hvalue, List.reverse_nil, List.nil_append], hsize⟩
  · rintro ⟨text, rest, rfl, hentries, hsize⟩
    rw [readEntries_append hitem hentries, readEntries_closing]
    exact congrArg Except.ok (Reading.ext (by simp) hsize.symm)

/-- Entries that the closing octet follows are read. -/
theorem readEntries_of_tiles (hitem : Reads (Form room) item) {text : Bytes}
    {entries : List (Entry Value)} (htext : Tiles room used text entries) (rest : Bytes) :
    ∃ hpos, readEntries item [] used (text ++ closing :: rest) =
      .ok ⟨entries, used + text.length + 1, hpos⟩ :=
  ⟨Nat.succ_pos _, (readEntries_eq_ok_iff hitem).mpr ⟨text, rest, rfl, htext, rfl⟩⟩

end Entries

end Swarm.Bencode
