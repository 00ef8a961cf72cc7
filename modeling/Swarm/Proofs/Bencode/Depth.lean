import Swarm.Proofs.Bencode.Stability

/-!
# The depth that a value is read at

Inside other lists and dictionaries a value has less room for its own. That only matters where
there is too little: whatever else is read, or is wrong, stays the same where there is more room.
So a value is read at a depth just if it is read at no depth at all and none of its lists and
dictionaries opens inside more others than there is room for. Those of an entry count that a later
entry overwrites.

## Main definitions

* `Holds`: what is written in a list or a dictionary, and where
* `Opens`: the lists and dictionaries of a written form, and inside how many others they open

## Main results

* `Stops.mono`: reading stops in the same way where there is more room
* `Form.lt_of_opens`, `Form.of_opens`: the room that a written form takes
* `decodeAt_depth`: what the depth changes
-/

namespace Swarm.Bencode

variable {room more other : Nat} {data : Bytes} {fault : DecodeError}

/-! ## More room -/

/-- A fault other than that there is no room is raised where there is more room, too. -/
theorem OwnFault.mono (h : OwnFault room data fault) (hroom : room ≤ more)
    (hfault : fault ≠ .nestingTooDeep) : OwnFault more data fault := by
  cases h with
  | empty => exact .empty
  | unknown hdigit hint hlist hdict => exact .unknown hdigit hint hlist hdict
  | string hdigit h => exact .string hdigit h
  | integer h => exact .integer h
  | tooDeep => exact absurd rfl hfault
  | list hinner htext =>
    obtain ⟨inner, rfl⟩ : ∃ inner, more = inner + 1 := ⟨more - 1, by omega⟩
    exact .list rfl (htext.mono (Form.mono (by omega)))
  | dict hinner htext hkey =>
    obtain ⟨inner, rfl⟩ : ∃ inner, more = inner + 1 := ⟨more - 1, by omega⟩
    exact .dict rfl (htext.mono (Form.mono (by omega))) hkey

/-- The reader gets as far where there is more room. -/
theorem Reaches.add_room {inner : Nat} {rest : Bytes} {around : List Container}
    (h : Reaches room data around inner rest) (extra : Nat) :
    Reaches (room + extra) data around (inner + extra) rest := by
  induction h with
  | here => exact .here
  | item htext hbyte _ ih =>
    rw [Nat.add_right_comm]
    exact .item (htext.mono (Form.mono (Nat.le_add_right _ _))) hbyte ih
  | value htext hkey _ ih =>
    rw [Nat.add_right_comm]
    exact .value (htext.mono (Form.mono (Nat.le_add_right _ _))) hkey ih

/-- **Reading stops in the same way** where there is more room, unless there was too little. -/
theorem Stops.mono (h : Stops room data fault) (hroom : room ≤ more)
    (hfault : fault.innermost ≠ .nestingTooDeep) : Stops more data fault := by
  obtain ⟨around, inner, rest, leaf, hreach, hleaf, rfl⟩ := h
  obtain ⟨extra, rfl⟩ := Nat.exists_eq_add_of_le hroom
  have hne : leaf ≠ .nestingTooDeep := by
    rintro rfl
    exact hfault (DecodeError.innermost_inside around _)
  exact ⟨around, inner + extra, rest, leaf, hreach.add_room extra,
    hleaf.mono (Nat.le_add_right _ _) hne, rfl⟩

/-! ## What is written in lists and dictionaries -/

/-- **What is written in a list or a dictionary**: the octets of an item, or of the value of an
entry, and how many octets stand before them. No matter whether a later entry has the same key. -/
inductive Holds : Bytes → Nat → Bytes → Prop where
  | item {room : Nat} {before raw after : Bytes} {value : Value} {earlier later : List Value}
      (hbefore : ItemsForm room before earlier) (hraw : Form room raw value)
      (hafter : ItemsForm room after later) :
      Holds (openList :: (before ++ raw ++ after ++ [closing])) (1 + before.length) raw
  | value {room : Nat} {before keyText key raw after : Bytes} {value : Value}
      {earlier later : List (Bytes × Value)} (hbefore : EntriesForm room before earlier)
      (hkey : StringForm keyText key) (hraw : Form room raw value)
      (hafter : EntriesForm room after later) :
      Holds (openDict :: (before ++ (keyText ++ raw ++ after) ++ [closing]))
        (1 + before.length + keyText.length) raw

/-- **A list or a dictionary that opens** in a written form: at which place, and inside how many
others of the same form. -/
inductive Opens : Bytes → Nat → Nat → Prop where
  | here {byte : UInt8} {rest : Bytes} (hopen : byte = openList ∨ byte = openDict) :
      Opens (byte :: rest) 0 0
  | within {text raw : Bytes} {offset place around : Nat} (hheld : Holds text offset raw)
      (h : Opens raw place around) : Opens text (offset + place) (around + 1)

variable {text raw before after rest keyText key : Bytes} {value : Value}
  {offset place around : Nat}

/-! ## Forms one behind the other -/

/-- What is written between items is one of the items, and takes no more room than they do. -/
theorem ItemsForm.form_of_between {items earlier : List Value}
    (h : ItemsForm room (before ++ (raw ++ after)) items) (hbefore : ItemsForm other before earlier)
    (hraw : Form other raw value) : Form room raw value := by
  -- The two rows of items are the same item by item, up to the one that is written there.
  induction earlier generalizing before items with
  | nil =>
    cases hbefore
    rw [List.nil_append] at h
    generalize htext : raw ++ after = text at h
    cases h with
    | nil => exact absurd (List.append_eq_nil_iff.mp htext).1 hraw.ne_nil
    | cons hfirst _ =>
      obtain ⟨rfl, rfl, -⟩ := hraw.append_inj hfirst htext
      exact hfirst
  | cons item earlier ih =>
    cases hbefore with
    | @cons _ first following _ _ hitem hfollowing =>
      rw [List.append_assoc] at h
      generalize htext : first ++ (following ++ (raw ++ after)) = text at h
      cases h with
      | nil => exact absurd (List.append_eq_nil_iff.mp htext).1 hitem.ne_nil
      | cons hfirst hrest =>
        obtain ⟨-, -, rfl⟩ := hitem.append_inj hfirst htext
        exact ih hrest hfollowing

/-- The value that is written between entries is that of one of them, and takes no more room. -/
theorem EntriesForm.form_of_between {entries earlier : List (Bytes × Value)}
    (h : EntriesForm room (before ++ (keyText ++ (raw ++ after))) entries)
    (hbefore : EntriesForm other before earlier) (hkey : StringForm keyText key)
    (hraw : Form other raw value) : Form room raw value := by
  induction earlier generalizing before entries with
  | nil =>
    cases hbefore
    rw [List.nil_append] at h
    generalize htext : keyText ++ (raw ++ after) = text at h
    cases h with
    | nil => exact absurd (List.append_eq_nil_iff.mp htext).1 hkey.ne_nil
    | cons hfirstKey hfirst _ =>
      rw [List.append_assoc] at htext
      obtain ⟨-, -, hvalue⟩ := reads_string.append_inj hkey hfirstKey htext
      obtain ⟨rfl, rfl, -⟩ := hraw.append_inj hfirst hvalue
      exact hfirst
  | cons entry earlier ih =>
    cases hbefore with
    | @cons _ firstKey first following _ _ _ hentryKey hentry hfollowing =>
      rw [List.append_assoc, List.append_assoc] at h
      generalize htext : firstKey ++ (first ++ (following ++ (keyText ++ (raw ++ after)))) = text
        at h
      cases h with
      | nil => exact absurd (List.append_eq_nil_iff.mp htext).1 hentryKey.ne_nil
      | cons hfirstKey hfirst hrest =>
        rw [List.append_assoc] at htext
        obtain ⟨-, -, hvalue⟩ := reads_string.append_inj hentryKey hfirstKey htext
        obtain ⟨-, -, rfl⟩ := hentry.append_inj hfirst hvalue
        exact ih hrest hfollowing

/-! ## The room that a written form takes -/

/-- **A form that opens a list or a dictionary** has room for it, and one less for what is between
its marks. -/
theorem Form.of_mark {byte : UInt8} (h : Form room (byte :: rest) value)
    (hopen : byte = openList ∨ byte = openDict) :
    ∃ inner text, room = inner + 1 ∧ rest = text ++ [closing] ∧
      ((byte = openList ∧ ∃ items, ItemsForm inner text items) ∨
        byte = openDict ∧ ∃ entries, EntriesForm inner text entries) := by
  generalize hwhole : byte :: rest = whole at h
  cases h with
  | int n =>
    rw [(List.cons.inj hwhole).1] at hopen
    exact absurd hopen (by decide)
  | bytes htext =>
    obtain ⟨digit, _, rfl, hdigit⟩ := htext.head_isDigit
    rw [← (List.cons.inj hwhole).1] at hdigit
    rcases hopen with rfl | rfl <;> exact absurd hdigit (by decide)
  | list htext =>
    obtain ⟨rfl, rfl⟩ := List.cons.inj hwhole
    exact ⟨_, _, rfl, rfl, .inl ⟨rfl, _, htext⟩⟩
  | dict htext =>
    obtain ⟨rfl, rfl⟩ := List.cons.inj hwhole
    exact ⟨_, _, rfl, rfl, .inr ⟨rfl, _, htext⟩⟩

/-- What is written in a list or a dictionary takes less room than all of it. -/
theorem Form.of_holds (h : Form room text value) (hheld : Holds text offset raw) :
    ∃ inner held, room = inner + 1 ∧ Form inner raw held := by
  cases hheld with
  | item hbefore hraw _ =>
    obtain ⟨inner, text, rfl, htext, ⟨-, items, hitems⟩ | ⟨hmark, -⟩⟩ := h.of_mark (.inl rfl)
    · rw [← List.append_cancel_right htext, List.append_assoc] at hitems
      exact ⟨inner, _, rfl, hitems.form_of_between hbefore hraw⟩
    · exact absurd hmark (by decide)
  | value hbefore hkey hraw _ =>
    obtain ⟨inner, text, rfl, htext, ⟨hmark, -⟩ | ⟨-, entries, hentries⟩⟩ := h.of_mark (.inr rfl)
    · exact absurd hmark (by decide)
    · rw [← List.append_cancel_right htext, List.append_assoc] at hentries
      exact ⟨inner, _, rfl, hentries.form_of_between hbefore hkey hraw⟩

/-- **What opens in a written form** is inside fewer others than there is room for. -/
theorem Form.lt_of_opens (h : Form room text value) (hopens : Opens text place around) :
    around < room := by
  induction hopens generalizing room value with
  | here hopen =>
    obtain ⟨inner, _, rfl, -⟩ := h.of_mark hopen
    exact Nat.succ_pos inner
  | within hheld _ ih =>
    obtain ⟨inner, held, rfl, hraw⟩ := h.of_holds hheld
    exact Nat.succ_lt_succ (ih hraw)

/-- Items take no more room than each of them. -/
theorem ItemsForm.of_between {items : List Value} (h : ItemsForm more text items)
    (hform : ∀ {before raw after earlier value later}, text = before ++ raw ++ after →
      ItemsForm more before earlier → Form more raw value → ItemsForm more after later →
      Form room raw value) : ItemsForm room text items := by
  induction items generalizing text with
  | nil =>
    cases h
    exact .nil
  | cons item items ih =>
    cases h with
    | @cons _ first following _ _ hfirst hrest =>
      have hsplit : first ++ following = [] ++ first ++ following := rfl
      refine .cons (hform hsplit .nil hfirst hrest) (ih hrest ?_)
      intro before raw after earlier value later htext hbefore
      exact hform (by rw [htext]; simp only [List.append_assoc]) (.cons hfirst hbefore)

/-- Entries take no more room than each of their values. -/
theorem EntriesForm.of_between {entries : List (Bytes × Value)} (h : EntriesForm more text entries)
    (hform : ∀ {before keyText key raw after earlier value later},
      text = before ++ (keyText ++ raw ++ after) → EntriesForm more before earlier →
      StringForm keyText key → Form more raw value → EntriesForm more after later →
      Form room raw value) : EntriesForm room text entries := by
  induction entries generalizing text with
  | nil =>
    cases h
    exact .nil
  | cons entry entries ih =>
    cases h with
    | @cons _ keyText first following _ _ _ hkey hfirst hrest =>
      have hsplit : keyText ++ first ++ following = [] ++ (keyText ++ first ++ following) := rfl
      refine .cons hkey (hform hsplit .nil hkey hfirst hrest) (ih hrest ?_)
      intro before keyText raw key after earlier value later htext hbefore
      exact hform (by rw [htext]; simp only [List.append_assoc]) (.cons hkey hfirst hbefore)

/-- **Room for what opens is room enough**: a written form takes no more. -/
theorem Form.of_opens (h : Form more text value)
    (hopens : ∀ place around, Opens text place around → around < room) : Form room text value := by
  -- The induction is on the room of the form, as a list or dictionary leaves less to what it holds.
  induction more generalizing room text value with
  | zero =>
    cases h with
    | int n => exact .int n
    | bytes htext => exact .bytes htext
  | succ more ih =>
    cases h with
    | int n => exact .int n
    | bytes htext => exact .bytes htext
    | list htext =>
      have hroom := hopens 0 0 (.here (.inl rfl))
      obtain ⟨inner, rfl⟩ : ∃ inner, room = inner + 1 := ⟨room - 1, by omega⟩
      refine .list (htext.of_between ?_)
      rintro before raw after earlier held later rfl hbefore hraw hafter
      refine ih hraw fun place around h => ?_
      exact Nat.lt_of_succ_lt_succ (hopens _ _ (.within (.item hbefore hraw hafter) h))
    | dict htext =>
      have hroom := hopens 0 0 (.here (.inr rfl))
      obtain ⟨inner, rfl⟩ : ∃ inner, room = inner + 1 := ⟨room - 1, by omega⟩
      refine .dict (htext.of_between ?_)
      rintro before keyText key raw after earlier held later rfl hbefore hkey hraw hafter
      refine ih hraw fun place around h => ?_
      exact Nat.lt_of_succ_lt_succ (hopens _ _ (.within (.value hbefore hkey hraw hafter) h))

/-! ## Verdicts -/

/-- **The depth matters for the room only.** What is read at a depth, or is wrong there other than
for a want of room, is read and is wrong in the same way at every lesser depth. And a value is read
at a depth just if it is read at none, in the same octets, and none of the lists and dictionaries
that open in them, in entries that are overwritten too, is inside as many others as there is room
for. -/
theorem decodeAt_depth {depth lesser : Nat} (hdepth : lesser ≤ depth) (data : Bytes) :
    (∀ value size, decodeAt depth data = .ok (value, size) →
      decodeAt lesser data = .ok (value, size)) ∧
    (∀ fault, decodeAt depth data = .error fault → fault.innermost ≠ .nestingTooDeep →
      decodeAt lesser data = .error fault) ∧
    ∀ value size, decodeAt depth data = .ok (value, size) ↔
      decodeAt 0 data = .ok (value, size) ∧
        ¬∃ place around, Opens (data.take size) place around ∧ 64 - depth ≤ around := by
  have hroom : maxNesting - depth ≤ maxNesting - lesser := Nat.sub_le_sub_left hdepth _
  refine ⟨?_, ?_, ?_⟩
  · intro value size h
    obtain ⟨hsize, hform⟩ := decodeAt_eq_ok_iff.mp h
    exact decodeAt_eq_ok_iff.mpr ⟨hsize, hform.mono hroom⟩
  · intro fault h hfault
    exact decodeAt_eq_error_iff.mpr ((decodeAt_eq_error_iff.mp h).mono hroom hfault)
  · intro value size
    rw [decodeAt_eq_ok_iff, decodeAt_eq_ok_iff]
    constructor
    · rintro ⟨hsize, hform⟩
      refine ⟨⟨hsize, hform.mono (Nat.sub_le_sub_left (Nat.zero_le _) _)⟩, ?_⟩
      rintro ⟨place, around, hopens, haround⟩
      exact Nat.not_lt.mpr haround (hform.lt_of_opens hopens)
    · rintro ⟨⟨hsize, hform⟩, hopens⟩
      exact ⟨hsize, hform.of_opens fun place around h => Nat.not_le.mp fun haround =>
        hopens ⟨place, around, h, haround⟩⟩

/-- A list that opens inside one dictionary, in an entry that is overwritten: there is no room for
it inside sixty-three others, and inside sixty-two it is read. A fault that is not for a want of
room stays. -/
theorem decodeAt_depth_overwritten :
    let data := Bytes.ofString "d1:kle1:ki1ee"
    let cut := Bytes.ofString "l3:ab"
    let value : Value := .dict [(Bytes.ofString "k", .int 1)]
    0 ≤ 62 ∧ 0 ≤ 63 ∧ decodeAt 62 data = .ok (value, 13) ∧ decodeAt 0 data = .ok (value, 13) ∧
      decodeAt 63 data = .error (.dictionaryValue .nestingTooDeep) ∧
      (∃ place around, Opens (data.take 13) place around ∧ 64 - 63 ≤ around) ∧
      decodeAt 63 cut = .error (.listItem .truncatedString) ∧
      decodeAt 0 cut = .error (.listItem .truncatedString) := by
  intro data cut value
  have hread : decodeAt 62 data = .ok (value, 13) := by decide +kernel
  have hdeep : decodeAt 63 data = .error (.dictionaryValue .nestingTooDeep) := by decide +kernel
  have hcut : decodeAt 63 cut = .error (.listItem .truncatedString) := by decide +kernel
  obtain ⟨hless, -, -⟩ := decodeAt_depth (Nat.zero_le 62) data
  obtain ⟨-, -, hiff⟩ := decodeAt_depth (Nat.zero_le 63) data
  obtain ⟨-, hfault, -⟩ := decodeAt_depth (Nat.zero_le 63) cut
  refine ⟨Nat.zero_le _, Nat.zero_le _, hread, hless _ _ hread, hdeep, ?_, hcut,
    hfault _ hcut (by decide)⟩
  by_contra hopens
  have hok := (hiff value 13).mpr ⟨hless _ _ hread, hopens⟩
  rw [hdeep] at hok
  cases hok

end Swarm.Bencode
