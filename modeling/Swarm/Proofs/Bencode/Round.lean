import Mathlib.Data.List.Forall2
import Swarm.Proofs.Bencode.Fault
import Swarm.Proofs.Torrent.PieceHash

/-!
# Lists and dictionaries, round by round

What lies in a list or a dictionary is read in rounds, each from the place in the octets where the
round before it ended. A machine takes slices of the octets in a round, and may ask for octets that
are not there. No round does: an item takes two octets at least and an entry four, none ends past
the last octet, and so the rounds are over some time. What they have read then are the octets
between the marks, with nothing between one and the next.

## Main definitions

* `Round`, `itemRound?`, `entryRound?`: one round, with nothing where octets are not there
* `Rounds`, `Comes`: rounds one after the other, and what they come to
* `Progress`: rounds that take octets that are there, and some in each
* `itemsAt`, `entriesAt`: what is read of a list, and of a dictionary, at a depth

## Main results

* `Progress.exists_comes`: rounds that make progress are over some time
* `comes_iff_itemsAt`, `comes_iff_entriesAt`: what the rounds come to
* `rounds_tile`: how far rounds go, and what they have read in the end
-/

namespace Swarm.Bencode

open Torrent (slice?)

/-! ## Rounds that may have no result -/

/-- **One round** over what lies in a list or a dictionary. -/
inductive Round (α : Type) where
  /-- Something is read, and the next round starts at this place. -/
  | goesOn (item : α) (next : Nat)
  /-- The closing octet is read, and with it so many octets were taken. -/
  | closes (size : Nat)
  | fails (fault : DecodeError)

/-- The round over the items of a list that starts at a place in its octets, with nothing where a
slice of them is asked for that is not there. -/
def itemRound? (depth : Nat) (data : Bytes) (place : Nat) : Option (Round Value) :=
  match data[place]? with
  | none => some (.fails .unterminatedList)
  | some byte =>
    if byte = closing then some (.closes (place + 1))
    else
      (slice? data place data.length).map fun rest =>
        match decodeAt (depth + 1) rest with
        | .error fault => .fails (.listItem fault)
        | .ok (value, size) => .goesOn value (place + size)

/-- The round over the entries of a dictionary that starts at a place in its octets, with nothing
where a slice of them is asked for that is not there. -/
def entryRound? (depth : Nat) (data : Bytes) (place : Nat) : Option (Round (Entry Value)) :=
  match data[place]? with
  | none => some (.fails .unterminatedDictionary)
  | some byte =>
    if byte = closing then some (.closes (place + 1))
    else if !Bytes.isDigit byte then some (.fails .nonStringKey)
    else
      (slice? data place data.length).bind fun rest =>
        match readString rest with
        | .error fault => some (.fails fault)
        | .ok key =>
          let behindKey := place + key.size
          -- The key may end where the octets do, and then nothing is taken behind it.
          if data.length ≤ behindKey then some (.fails .unterminatedDictionary)
          else
            (slice? data behindKey data.length).bind fun rest =>
              match decodeAt (depth + 1) rest with
              | .error fault => some (.fails (.dictionaryValue fault))
              | .ok (value, size) =>
                (slice? data place behindKey).bind fun keyText =>
                  (slice? data behindKey (behindKey + size)).map fun raw =>
                    .goesOn ⟨keyText, key.value, behindKey, raw, value⟩ (behindKey + size)

variable {α : Type} {round? : Nat → Option (Round α)} {place last : Nat} {items : List α}

/-- **Rounds one after the other** from a place on, with what they read and the place that they end
at. -/
inductive Rounds (round? : Nat → Option (Round α)) : Nat → List α → Nat → Prop where
  | refl {place : Nat} : Rounds round? place [] place
  | head {place next last : Nat} {item : α} {items : List α}
      (h : round? place = some (.goesOn item next)) (hrest : Rounds round? next items last) :
      Rounds round? place (item :: items) last

/-- **What rounds come to** that start behind the mark: all that was read and how many octets were
taken, or a fault. -/
inductive Comes (round? : Nat → Option (Round α)) : Except DecodeError (List α × Nat) → Prop where
  | closes {items : List α} {place size : Nat} (hrounds : Rounds round? 1 items place)
      (hcloses : round? place = some (.closes size)) : Comes round? (.ok (items, size))
  | fails {items : List α} {place : Nat} {fault : DecodeError}
      (hrounds : Rounds round? 1 items place) (hfails : round? place = some (.fails fault)) :
      Comes round? (.error fault)

/-- **Rounds that make progress**: each has a result, and one that others follow takes at least so
many octets, of those that there are. -/
structure Progress (round? : Nat → Option (Round α)) (least length : Nat) : Prop where
  exists_round (place : Nat) : ∃ round, round? place = some round
  goesOn {place next : Nat} {item : α} : round? place = some (.goesOn item next) →
    place + least ≤ next ∧ next ≤ length

namespace Progress

variable {least length : Nat}

/-- How far rounds go, and how many there can be. -/
theorem bounds (h : Progress round? least length) (hrounds : Rounds round? place items last)
    (hplace : place ≤ length) : place + least * items.length ≤ last ∧ last ≤ length := by
  induction hrounds with
  | refl => exact ⟨Nat.le_refl _, hplace⟩
  | head hround _ ih =>
    obtain ⟨hleast, hnext⟩ := h.goesOn hround
    obtain ⟨htotal, hlast⟩ := ih hnext
    rw [List.length_cons, Nat.mul_succ]
    omega

/-- From every place on there are rounds up to one that no round follows. -/
theorem exists_rounds (h : Progress round? least length) (hleast : 0 < least) (place : Nat) :
    ∃ items last, Rounds round? place items last ∧
      ((∃ size, round? last = some (.closes size)) ∨
        ∃ fault, round? last = some (.fails fault)) := by
  -- Fewer octets are left after every round that goes on.
  induction hleft : length - place using Nat.strong_induction_on generalizing place with
  | h left ih =>
    obtain ⟨round, hround⟩ := h.exists_round place
    cases round with
    | closes size => exact ⟨[], place, .refl, .inl ⟨size, hround⟩⟩
    | fails fault => exact ⟨[], place, .refl, .inr ⟨fault, hround⟩⟩
    | goesOn item next =>
      obtain ⟨hnext, hlength⟩ := h.goesOn hround
      obtain ⟨items, last, hrounds, hend⟩ := ih (length - next) (by omega) next rfl
      exact ⟨item :: items, last, .head hround hrounds, hend⟩

/-- **Rounds are over some time.** -/
theorem exists_comes (h : Progress round? least length) (hleast : 0 < least) :
    ∃ result, Comes round? result := by
  obtain ⟨items, last, hrounds, ⟨size, hcloses⟩ | ⟨fault, hfails⟩⟩ := h.exists_rounds hleast 1
  · exact ⟨_, .closes hrounds hcloses⟩
  · exact ⟨_, .fails hrounds hfails⟩

end Progress

/-! ## The rounds of a loop -/

section Loop

variable {loop : List α → Nat → Except DecodeError (List α × Nat)}

/-- What a loop does once a round is done: `found` was read before, the latest first. -/
def Round.andThen (loop : List α → Nat → Except DecodeError (List α × Nat)) (found : List α) :
    Round α → Except DecodeError (List α × Nat)
  | .goesOn item next => loop (item :: found) next
  | .closes size => .ok (found.reverse, size)
  | .fails fault => .error fault

-- One equation says that every round has a result and what the loop does after it.

variable
  (hloop : ∀ found place, (round? place).map (Round.andThen loop found) = some (loop found place))
include hloop

theorem loop_eq_of_round {round : Round α} (h : round? place = some round) (found : List α) :
    loop found place = round.andThen loop found := by
  have hmap := hloop found place
  rw [h, Option.map_some] at hmap
  exact (Option.some.inj hmap).symm

theorem exists_round_of_loop (place : Nat) : ∃ round, round? place = some round := by
  obtain ⟨round, hround, -⟩ := Option.map_eq_some_iff.mp (hloop [] place)
  exact ⟨round, hround⟩

/-- After some rounds the loop is where they end, and has found what they read. -/
theorem Rounds.loop_eq (h : Rounds round? place items last) (found : List α) :
    loop found place = loop (items.reverse ++ found) last := by
  induction h generalizing found with
  | refl => rfl
  | head hround _ ih =>
    rw [loop_eq_of_round hloop hround, Round.andThen, ih, List.reverse_cons, List.append_assoc,
      List.singleton_append]

theorem Comes.loop_eq {result : Except DecodeError (List α × Nat)} (h : Comes round? result) :
    loop [] 1 = result := by
  cases h with
  | closes hrounds hcloses =>
    rw [hrounds.loop_eq hloop, loop_eq_of_round hloop hcloses, Round.andThen, List.append_nil,
      List.reverse_reverse]
  | fails hrounds hfails =>
    rw [hrounds.loop_eq hloop, loop_eq_of_round hloop hfails, Round.andThen]

/-- A loop comes to what its rounds come to. -/
theorem comes_iff_loop {least length : Nat} (hprogress : Progress round? least length)
    (hleast : 0 < least) {result : Except DecodeError (List α × Nat)} :
    Comes round? result ↔ loop [] 1 = result := by
  refine ⟨fun h => h.loop_eq hloop, ?_⟩
  rintro rfl
  obtain ⟨result, hresult⟩ := hprogress.exists_comes hleast
  rwa [hresult.loop_eq hloop]

end Loop

/-! ## The slices that a round takes -/

section Slices

variable {data : Bytes} {start : Nat}

theorem lt_length_of_drop {rest : Bytes} (h : data.drop start = rest) (hrest : rest ≠ []) :
    start < data.length := by
  refine Nat.not_le.mp fun hle => hrest ?_
  rw [← h, List.drop_eq_nil_of_le hle]

theorem slice?_length (h : start ≤ data.length) :
    slice? data start data.length = some (data.drop start) := by
  rw [slice?, if_pos ⟨h, Nat.le_refl _⟩, List.take_of_length_le (by rw [List.length_drop])]

theorem slice?_add {size : Nat} (h : start + size ≤ data.length) :
    slice? data start (start + size) = some ((data.drop start).take size) := by
  rw [slice?, if_pos ⟨Nat.le_add_right _ _, h⟩, Nat.add_sub_cancel_left]

end Slices

/-- A string is written in two octets at least. -/
theorem StringForm.two_le_length {text data : Bytes} (h : StringForm text data) :
    2 ≤ text.length := by
  obtain ⟨hdigits, -, -⟩ := h
  have hpos := List.length_pos_iff.mpr hdigits
  rw [List.length_append, List.length_cons]
  omega

/-- A value is written in two octets at least. -/
theorem Form.two_le_length {room : Nat} {text : Bytes} {value : Value} (h : Form room text value) :
    2 ≤ text.length := by
  cases h with
  | bytes htext => exact htext.two_le_length
  | _ => simp

/-- What a value takes: two octets at least, of those that there are. -/
theorem size_of_decodeAt {depth size : Nat} {data : Bytes} {value : Value}
    (h : decodeAt depth data = .ok (value, size)) : 2 ≤ size ∧ size ≤ data.length := by
  obtain ⟨hsize, hform⟩ := decodeAt_eq_ok_iff.mp h
  have hleast := hform.two_le_length
  rw [List.length_take_of_le hsize] at hleast
  exact ⟨hleast, hsize⟩

/-! ## The items of a list -/

section Items

variable {depth next : Nat} {data : Bytes} {value : Value}

/-- The loop over the items of a list from a place in its octets on: those of `found`, the latest
first, stand before. The list lies inside `depth` lists and dictionaries. -/
def itemsFrom (depth : Nat) (data : Bytes) (found : List Value) (place : Nat) :
    Except DecodeError (List Value × Nat) :=
  (readItems (readValue (maxNesting - (depth + 1))) found place (data.drop place)).map
    fun reading => (reading.value, reading.size)

/-- The items of the list at the front of some octets, inside `depth` lists and dictionaries, and
how many octets it takes. -/
def itemsAt (depth : Nat) (data : Bytes) : Except DecodeError (List Value × Nat) :=
  itemsFrom depth data [] 1

theorem itemRound?_nil (hdata : data.drop place = []) :
    itemRound? depth data place = some (.fails .unterminatedList) := by
  rw [itemRound?, ← List.head?_drop, hdata, List.head?_nil]

theorem itemRound?_closing {rest : Bytes} (hdata : data.drop place = closing :: rest) :
    itemRound? depth data place = some (.closes (place + 1)) := by
  rw [itemRound?, ← List.head?_drop, hdata, List.head?_cons]
  exact if_pos rfl

/-- What a round does where an item is due: it takes no slice that is not there. -/
theorem itemRound?_value {byte : UInt8} {rest : Bytes} (hdata : data.drop place = byte :: rest)
    (hbyte : byte ≠ closing) :
    itemRound? depth data place = some
      (match decodeAt (depth + 1) (byte :: rest) with
      | .error fault => .fails (.listItem fault)
      | .ok (value, size) => .goesOn value (place + size)) := by
  have hplace := lt_length_of_drop hdata (List.cons_ne_nil _ _)
  rw [itemRound?, ← List.head?_drop, hdata, List.head?_cons]
  simp only [if_neg hbyte, slice?_length hplace.le, hdata, Option.map_some]

/-- The loop over items goes round by round, and no round is without a result. -/
theorem itemRound?_andThen (found : List Value) (place : Nat) :
    (itemRound? depth data place).map (Round.andThen (itemsFrom depth data) found) =
      some (itemsFrom depth data found place) := by
  rw [itemsFrom]
  cases hdata : data.drop place with
  | nil =>
    rw [itemRound?_nil hdata, readItems]
    rfl
  | cons byte rest =>
    by_cases hbyte : byte = closing
    · subst hbyte
      rw [itemRound?_closing hdata, readItems_closing]
      rfl
    · rw [itemRound?_value hdata hbyte, readItems, if_neg hbyte, decodeAt]
      cases readValue (maxNesting - (depth + 1)) (byte :: rest) with
      | error fault => rfl
      | ok reading =>
        show some (itemsFrom depth data (reading.value :: found) (place + reading.size)) = _
        rw [itemsFrom, ← List.drop_drop, hdata]

theorem itemRound?_eq_goesOn (h : itemRound? depth data place = some (.goesOn value next)) :
    ∃ size, decodeAt (depth + 1) (data.drop place) = .ok (value, size) ∧ next = place + size := by
  cases hdata : data.drop place with
  | nil =>
    rw [itemRound?_nil hdata] at h
    cases h
  | cons byte rest =>
    by_cases hbyte : byte = closing
    · rw [itemRound?_closing (hbyte ▸ hdata)] at h
      cases h
    · rw [itemRound?_value hdata hbyte] at h
      cases hread : decodeAt (depth + 1) (byte :: rest) with
      | error fault => simp [hread] at h
      | ok read =>
        obtain ⟨item, size⟩ := read
        simp only [hread, Option.some.injEq, Round.goesOn.injEq] at h
        obtain ⟨rfl, rfl⟩ := h
        exact ⟨size, rfl, rfl⟩

theorem progress_itemRound? (depth : Nat) (data : Bytes) :
    Progress (itemRound? depth data) 2 data.length where
  exists_round := exists_round_of_loop itemRound?_andThen
  goesOn := by
    intro place next value h
    obtain ⟨size, hread, rfl⟩ := itemRound?_eq_goesOn h
    obtain ⟨hleast, hsize⟩ := size_of_decodeAt hread
    rw [List.length_drop] at hsize
    omega

/-- **What the rounds over the items of a list come to.** -/
theorem comes_iff_itemsAt {result : Except DecodeError (List Value × Nat)} :
    Comes (itemRound? depth data) result ↔ itemsAt depth data = result :=
  comes_iff_loop itemRound?_andThen (progress_itemRound? depth data) (by decide)

theorem decodeAt_eq_map_itemsAt (hdepth : depth < maxNesting) (rest : Bytes) :
    decodeAt depth (openList :: rest) =
      (itemsAt depth (openList :: rest)).map fun read => (.list read.1, read.2) := by
  rw [decodeAt_list hdepth, itemsAt, itemsFrom, List.drop_one, List.tail_cons]
  cases readItems (readValue (maxNesting - (depth + 1))) [] 1 rest <;> rfl

end Items

/-! ## The entries of a dictionary -/

section Entries

variable {depth next : Nat} {data : Bytes} {entry : Entry Value}

/-- The loop over the entries of a dictionary from a place in its octets on: those of `found`, the
latest first, stand before. The dictionary lies inside `depth` lists and dictionaries. -/
def entriesFrom (depth : Nat) (data : Bytes) (found : List (Entry Value)) (place : Nat) :
    Except DecodeError (List (Entry Value) × Nat) :=
  (readEntries (readValue (maxNesting - (depth + 1))) found place (data.drop place)).map
    fun reading => (reading.value, reading.size)

/-- The entries of the dictionary at the front of some octets, inside `depth` lists and
dictionaries, and how many octets it takes. -/
def entriesAt (depth : Nat) (data : Bytes) : Except DecodeError (List (Entry Value) × Nat) :=
  entriesFrom depth data [] 1

/-- **What stands where an entry is due**: the closing octet, a fault of the key, or a key that more
octets follow. -/
theorem closing_or_keyFault_or_key (data : Bytes) :
    (∃ rest, data = closing :: rest) ∨ (∃ fault, KeyFault data fault) ∨
      ∃ keyText key rest, data = keyText ++ rest ∧ StringForm keyText key ∧ rest ≠ [] := by
  rcases data with _ | ⟨byte, data⟩
  · exact .inr (.inl ⟨_, .missing⟩)
  by_cases hclosing : byte = closing
  · exact .inl ⟨data, by rw [hclosing]⟩
  refine .inr ?_
  cases hdigit : Bytes.isDigit byte with
  | false => exact .inl ⟨_, .other hclosing hdigit⟩
  | true =>
    cases hread : readString (byte :: data) with
    | error fault => exact .inl ⟨fault, .string hdigit hread⟩
    | ok key =>
      obtain ⟨keyText, hdata, hkey⟩ := reads_string.exists_append_drop hread
      by_cases hrest : (byte :: data).drop key.size = []
      · rw [hrest, List.append_nil] at hdata
        exact .inl ⟨_, hdata ▸ KeyFault.alone hkey⟩
      · exact .inr ⟨keyText, key.value, _, hdata, hkey, hrest⟩

theorem entryRound?_closing {rest : Bytes} (hdata : data.drop place = closing :: rest) :
    entryRound? depth data place = some (.closes (place + 1)) := by
  rw [entryRound?, ← List.head?_drop, hdata, List.head?_cons]
  exact if_pos rfl

theorem entryRound?_of_keyFault {fault : DecodeError} (h : KeyFault (data.drop place) fault) :
    entryRound? depth data place = some (.fails fault) := by
  generalize hdata : data.drop place = left at h
  rw [entryRound?, ← List.head?_drop, hdata]
  cases h with
  | missing => rfl
  | other hbyte hdigit =>
    simp only [List.head?_cons, if_neg hbyte, hdigit, Bool.not_false, if_true]
  | string hdigit hread =>
    have hplace := lt_length_of_drop hdata (List.cons_ne_nil _ _)
    simp only [List.head?_cons, if_neg (ne_closing_of_isDigit hdigit), hdigit, Bool.not_true,
      Bool.false_eq_true, if_false, slice?_length hplace.le, Option.bind_some, hdata, hread]
  | alone hkey =>
    obtain ⟨_, hread⟩ := reads_string.complete hkey []
    obtain ⟨byte, tail, rfl, hdigit⟩ := hkey.head_isDigit
    have hplace := lt_length_of_drop hdata (List.cons_ne_nil _ _)
    have hlength := congrArg List.length hdata
    rw [List.length_drop] at hlength
    rw [List.append_nil] at hread
    simp only [List.head?_cons, if_neg (ne_closing_of_isDigit hdigit), hdigit, Bool.not_true,
      Bool.false_eq_true, if_false, slice?_length hplace.le, Option.bind_some, hdata, hread,
      if_pos (show data.length ≤ place + (byte :: tail).length by omega)]

/-- What a round does once it has read a key that more octets follow: it takes no slice that is not
there. -/
theorem entryRound?_key {keyText key rest : Bytes} (hdata : data.drop place = keyText ++ rest)
    (hkey : StringForm keyText key) (hrest : rest ≠ []) :
    entryRound? depth data place = some
      (match decodeAt (depth + 1) rest with
      | .error fault => .fails (.dictionaryValue fault)
      | .ok (value, size) =>
        .goesOn ⟨keyText, key, place + keyText.length, rest.take size, value⟩
          (place + keyText.length + size)) := by
  obtain ⟨_, hread⟩ := reads_string.complete hkey rest
  rw [← hdata] at hread
  obtain ⟨byte, tail, htext, hdigit⟩ := hkey.head_isDigit
  have hhead : data[place]? = some byte := by
    rw [← List.head?_drop, hdata, htext, List.cons_append, List.head?_cons]
  have hbehind : data.drop (place + keyText.length) = rest := by
    rw [← List.drop_drop, hdata, List.drop_left]
  have hlength := lt_length_of_drop hbehind hrest
  simp only [entryRound?, hhead, if_neg (ne_closing_of_isDigit hdigit), hdigit, Bool.not_true,
    Bool.false_eq_true, if_false, slice?_length (show place ≤ data.length by omega),
    Option.bind_some, hread, if_neg (Nat.not_le.mpr hlength), slice?_length hlength.le, hbehind]
  cases hvalue : decodeAt (depth + 1) rest with
  | error fault => rfl
  | ok read =>
    obtain ⟨value, size⟩ := read
    have hsize := (size_of_decodeAt hvalue).2
    rw [← hbehind, List.length_drop] at hsize
    simp only [slice?_add hlength.le, Option.bind_some,
      slice?_add (show place + keyText.length + size ≤ data.length by omega), Option.map_some,
      hdata, hbehind, List.take_left]

/-- The loop over entries goes round by round, and no round is without a result. -/
theorem entryRound?_andThen (found : List (Entry Value)) (place : Nat) :
    (entryRound? depth data place).map (Round.andThen (entriesFrom depth data) found) =
      some (entriesFrom depth data found place) := by
  rw [entriesFrom]
  rcases closing_or_keyFault_or_key (data.drop place) with
    ⟨rest, hdata⟩ | ⟨fault, hfault⟩ | ⟨keyText, key, rest, hdata, hkey, hrest⟩
  · rw [entryRound?_closing hdata, hdata, readEntries_closing]
    rfl
  · rw [entryRound?_of_keyFault hfault, readEntries_of_keyFault hfault]
    rfl
  · rw [entryRound?_key hdata hkey hrest, hdata, readEntries_key hkey hrest, decodeAt]
    cases readValue (maxNesting - (depth + 1)) rest with
    | error fault => rfl
    | ok reading =>
      show some (entriesFrom depth data (_ :: found) (place + keyText.length + reading.size)) = _
      rw [entriesFrom, ← List.drop_drop, ← List.drop_drop, hdata, List.drop_left]

theorem entryRound?_eq_goesOn (h : entryRound? depth data place = some (.goesOn entry next)) :
    ∃ size, StringForm entry.keyText entry.key ∧
      decodeAt (depth + 1) (data.drop (place + entry.keyText.length)) = .ok (entry.value, size) ∧
      next = place + entry.keyText.length + size := by
  rcases closing_or_keyFault_or_key (data.drop place) with
    ⟨rest, hdata⟩ | ⟨fault, hfault⟩ | ⟨keyText, key, rest, hdata, hkey, hrest⟩
  · rw [entryRound?_closing hdata] at h
    cases h
  · rw [entryRound?_of_keyFault hfault] at h
    cases h
  · rw [entryRound?_key hdata hkey hrest] at h
    cases hread : decodeAt (depth + 1) rest with
    | error fault => simp [hread] at h
    | ok read =>
      obtain ⟨value, size⟩ := read
      simp only [hread, Option.some.injEq, Round.goesOn.injEq] at h
      obtain ⟨rfl, rfl⟩ := h
      refine ⟨size, hkey, ?_, rfl⟩
      rw [← List.drop_drop, hdata, List.drop_left, hread]

theorem progress_entryRound? (depth : Nat) (data : Bytes) :
    Progress (entryRound? depth data) 4 data.length where
  exists_round := exists_round_of_loop entryRound?_andThen
  goesOn := by
    intro place next entry h
    obtain ⟨size, hkey, hread, rfl⟩ := entryRound?_eq_goesOn h
    obtain ⟨hleast, hsize⟩ := size_of_decodeAt hread
    have hkeyLeast := hkey.two_le_length
    rw [List.length_drop] at hsize
    omega

/-- **What the rounds over the entries of a dictionary come to.** -/
theorem comes_iff_entriesAt {result : Except DecodeError (List (Entry Value) × Nat)} :
    Comes (entryRound? depth data) result ↔ entriesAt depth data = result :=
  comes_iff_loop entryRound?_andThen (progress_entryRound? depth data) (by decide)

theorem decodeAt_eq_map_entriesAt (hdepth : depth < maxNesting) (rest : Bytes) :
    decodeAt depth (openDict :: rest) =
      (entriesAt depth (openDict :: rest)).map fun read => (dictOfEntries read.1, read.2) := by
  rw [decodeAt_dict hdepth, entriesAt, entriesFrom, List.drop_one, List.tail_cons]
  cases readEntries (readValue (maxNesting - (depth + 1))) [] 1 rest <;> rfl

theorem entries?_dict (rest : Bytes) :
    entries? (openDict :: rest) =
      (entriesAt 0 (openDict :: rest)).map fun read => some read.1 := by
  rw [entries?, if_pos rfl, entriesAt, entriesFrom, List.drop_one, List.tail_cons]
  cases readEntries (readValue (maxNesting - 1)) [] 1 rest <;> rfl

end Entries

/-! ## What the rounds have read in the end -/

section Tiling

variable {depth room start size : Nat} {text rest : Bytes}

theorem ItemsForm.exists_flatten {items : List Value} (h : ItemsForm room text items) :
    ∃ raws : List Bytes, text = raws.flatten ∧ List.Forall₂ (Form room) raws items := by
  induction items generalizing text with
  | nil =>
    cases h
    exact ⟨[], rfl, .nil⟩
  | cons item items ih =>
    cases h with
    | @cons _ raw _ _ _ hraw hrest =>
      obtain ⟨raws, rfl, hraws⟩ := ih hrest
      exact ⟨raw :: raws, rfl, .cons hraw hraws⟩

namespace Tiles

variable {entries : List (Entry Value)}

theorem eq_flatMap (h : Tiles room start text entries) :
    text = entries.flatMap fun entry => entry.keyText ++ entry.raw := by
  induction h with
  | nil => rfl
  | cons _ _ _ _ ih => rw [List.flatMap_cons, ← ih]

theorem forms_of_mem (h : Tiles room start text entries) {entry : Entry Value}
    (hentry : entry ∈ entries) :
    StringForm entry.keyText entry.key ∧ Form room entry.raw entry.value := by
  obtain ⟨earlier, later, rfl⟩ := List.append_of_mem hentry
  obtain ⟨_, _, -, -, hkey, -, hraw, -⟩ := h.split
  exact ⟨hkey, hraw⟩

end Tiles

/-- The octets that a list or a dictionary takes are its text between the marks. -/
theorem take_marked (mark : UInt8) (text rest : Bytes) :
    (mark :: (text ++ closing :: rest)).take (1 + text.length + 1) =
      mark :: (text ++ [closing]) := by
  rw [← marked_append, ← length_marked, List.take_left]

/-- **The octets of a list** are its items between the marks. -/
theorem items_tile {items : List Value} (h : itemsAt depth (openList :: rest) = .ok (items, size)) :
    size ≤ (openList :: rest).length ∧ ∃ raws : List Bytes,
      (openList :: rest).take size = openList :: (raws.flatten ++ [closing]) ∧
      List.Forall₂ (fun raw item => decodeAt (depth + 1) raw = .ok (item, raw.length))
        raws items := by
  rw [itemsAt, itemsFrom, map_eq_ok_iff] at h
  obtain ⟨reading, hread, hpair⟩ := h
  obtain ⟨rfl, rfl⟩ := Prod.mk.inj hpair
  obtain ⟨text, after, hdata, hitems, hsize⟩ := (readItems_eq_ok_iff (reads_value _)).mp hread
  obtain rfl : rest = text ++ closing :: after := hdata
  obtain ⟨raws, rfl, hraws⟩ := hitems.exists_flatten
  rw [hsize, take_marked]
  refine ⟨?_, raws, rfl, hraws.imp fun _ _ hraw => hraw.decodeAt_eq⟩
  simp only [List.length_cons, List.length_append]
  omega

/-- **The octets of a dictionary** are its entries between the marks, each the text of its key and
what its value is read from. -/
theorem entries_tile {entries : List (Entry Value)}
    (h : entriesAt depth (openDict :: rest) = .ok (entries, size)) :
    size ≤ (openDict :: rest).length ∧
      (openDict :: rest).take size =
        openDict :: ((entries.flatMap fun entry => entry.keyText ++ entry.raw) ++ [closing]) ∧
      ∀ entry ∈ entries, StringForm entry.keyText entry.key ∧
        decodeAt (depth + 1) entry.raw = .ok (entry.value, entry.raw.length) := by
  rw [entriesAt, entriesFrom, map_eq_ok_iff] at h
  obtain ⟨reading, hread, hpair⟩ := h
  obtain ⟨rfl, rfl⟩ := Prod.mk.inj hpair
  obtain ⟨text, after, hdata, htiles, hsize⟩ := (readEntries_eq_ok_iff (reads_value _)).mp hread
  obtain rfl : rest = text ++ closing :: after := hdata
  rw [hsize, take_marked, ← htiles.eq_flatMap]
  refine ⟨?_, rfl, fun entry hentry => ?_⟩
  · simp only [List.length_cons, List.length_append]
    omega
  · obtain ⟨hkey, hraw⟩ := htiles.forms_of_mem hentry
    exact ⟨hkey, hraw.decodeAt_eq⟩

end Tiling

/-- **Lists and dictionaries are read round by round**, wherever they may open. No round asks for
octets that are not there; one that another follows takes four octets at least in a dictionary, and
two in a list; so the rounds are over some time, and what they come to is what is decoded. What they
have read then are the octets that were taken: between the marks, one behind the other, the text of
each key and what its value is read from, or what each item is read from. -/
theorem rounds_tile {depth : Nat} (hdepth : depth < 64) (data : Bytes) :
    (data.head? = some openDict →
      Progress (entryRound? depth data) 4 data.length ∧
      (∀ entries place, Rounds (entryRound? depth data) 1 entries place →
        1 + 4 * entries.length ≤ place ∧ place ≤ data.length) ∧
      (∀ result, Comes (entryRound? depth data) result ↔ entriesAt depth data = result) ∧
      decodeAt depth data =
        (entriesAt depth data).map (fun read => (dictOfEntries read.1, read.2)) ∧
      (depth = 0 → entries? data = (entriesAt depth data).map fun read => some read.1) ∧
      ∀ entries size, entriesAt depth data = .ok (entries, size) →
        size ≤ data.length ∧
        data.take size =
          openDict :: ((entries.flatMap fun entry => entry.keyText ++ entry.raw) ++ [closing]) ∧
        ∀ entry ∈ entries, StringForm entry.keyText entry.key ∧
          decodeAt (depth + 1) entry.raw = .ok (entry.value, entry.raw.length)) ∧
    (data.head? = some openList →
      Progress (itemRound? depth data) 2 data.length ∧
      (∀ items place, Rounds (itemRound? depth data) 1 items place →
        1 + 2 * items.length ≤ place ∧ place ≤ data.length) ∧
      (∀ result, Comes (itemRound? depth data) result ↔ itemsAt depth data = result) ∧
      decodeAt depth data = (itemsAt depth data).map (fun read => (.list read.1, read.2)) ∧
      ∀ items size, itemsAt depth data = .ok (items, size) →
        size ≤ data.length ∧ ∃ raws : List Bytes,
          data.take size = openList :: (raws.flatten ++ [closing]) ∧
          List.Forall₂ (fun raw item => decodeAt (depth + 1) raw = .ok (item, raw.length))
            raws items) := by
  constructor
  · intro hopen
    obtain ⟨rest, rfl⟩ := List.head?_eq_some_iff.mp hopen
    have hprogress := progress_entryRound? depth (openDict :: rest)
    refine ⟨hprogress, fun _ _ hrounds => hprogress.bounds hrounds ?_, fun _ => comes_iff_entriesAt,
      decodeAt_eq_map_entriesAt hdepth rest, ?_, fun _ _ => entries_tile⟩
    · exact Nat.le_add_left 1 rest.length
    · rintro rfl
      exact entries?_dict rest
  · intro hopen
    obtain ⟨rest, rfl⟩ := List.head?_eq_some_iff.mp hopen
    have hprogress := progress_itemRound? depth (openList :: rest)
    refine ⟨hprogress, fun _ _ hrounds => hprogress.bounds hrounds ?_, fun _ => comes_iff_itemsAt,
      decodeAt_eq_map_itemsAt hdepth rest, fun _ _ => items_tile⟩
    exact Nat.le_add_left 1 rest.length

/-- Inside sixty-three others: the shortest entry twice, with octets behind the dictionary, and a
list with the shortest item. -/
theorem rounds_tile_shortest :
    let dictionary := Bytes.ofString "d0:0:0:0:e0:"
    let list := Bytes.ofString "l0:e"
    63 < 64 ∧ dictionary.head? = some openDict ∧ list.head? = some openList ∧
      (∃ entries, Comes (entryRound? 63 dictionary) (.ok (entries, 10)) ∧
        dictOfEntries entries = .dict [([], .bytes [])] ∧
        dictionary.take 10 =
          openDict :: ((entries.flatMap fun entry => entry.keyText ++ entry.raw) ++ [closing])) ∧
      Comes (itemRound? 63 list) (.ok ([.bytes []], 4)) ∧
      ∃ raws : List Bytes, list.take 4 = openList :: (raws.flatten ++ [closing]) ∧
        List.Forall₂ (fun raw item => decodeAt 64 raw = .ok (item, raw.length)) raws
          [.bytes []] := by
  intro dictionary list
  have hdictionary : dictionary.head? = some openDict := by decide +kernel
  have hlist : list.head? = some openList := by decide +kernel
  have hread : decodeAt 63 dictionary = .ok (.dict [([], .bytes [])], 10) := by decide +kernel
  have hitems : itemsAt 63 list = .ok ([.bytes []], 4) := by decide +kernel
  obtain ⟨-, -, hcomes, hdecode, -, htile⟩ :=
    (rounds_tile (by decide : 63 < 64) dictionary).1 hdictionary
  obtain ⟨-, -, hcomesList, -, htileList⟩ := (rounds_tile (by decide : 63 < 64) list).2 hlist
  rw [hread, eq_comm, map_eq_ok_iff] at hdecode
  obtain ⟨⟨entries, size⟩, hentries, hpair⟩ := hdecode
  obtain ⟨hvalue, rfl⟩ := Prod.mk.inj hpair
  exact ⟨by decide, hdictionary, hlist,
    ⟨entries, (hcomes _).mpr hentries, hvalue, (htile _ _ hentries).2.1⟩,
    (hcomesList _).mpr hitems, (htileList _ _ hitems).2⟩

end Swarm.Bencode
