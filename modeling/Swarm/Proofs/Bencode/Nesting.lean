import Swarm.Proofs.Bencode.Acceptance

/-!
# Values that are nested too deep

What is written for a value is read up to the first list or dictionary that opens where no more
may be open. So the fault is inside as many wrappers as lists and dictionaries may be open, one
for each that is.

## Main definitions

* `Container`: the two kinds of values that hold values
* `DecodeError.inside`: a fault in the wrappers of the containers around it

## Main results

* `readValue_encode_tooDeep`: what is written for a value nested too deep is refused
-/

namespace Swarm.Bencode

/-- What a value can lie inside. -/
inductive Container where
  | list
  | dict
  deriving DecidableEq

/-- The wrapper that a container puts around a fault of what lies inside it. -/
def Container.wrap : Container → DecodeError → DecodeError
  | .list => .listItem
  | .dict => .dictionaryValue

/-- The fault in the wrappers of the containers around it, the outermost first. -/
def DecodeError.inside (around : List Container) (fault : DecodeError) : DecodeError :=
  around.foldr Container.wrap fault

variable {room : Nat}

/-- What is written for a value starts like a value, however deep it is nested. -/
theorem Value.WellFormed.exists_cons_encode {value : Value} (h : value.WellFormed) :
    ∃ byte rest, value.encode = byte :: rest ∧ byte ≠ closing :=
  (form_encode h (Nat.le_refl _)).exists_cons

section TooDeep

variable
  (hdeep : ∀ {value : Value}, value.WellFormed → room < value.nesting → ∀ rest : Bytes,
    ∃ around : List Container, around.length = room ∧
      readValue room (value.encode ++ rest) = .error (DecodeError.nestingTooDeep.inside around))
include hdeep

/-- The first item that is nested too deep is the fault of a list. -/
theorem readItems_encodeItems_tooDeep {items : List Value} {found : List Value} {used : Nat}
    (hitems : ∀ item ∈ items, item.WellFormed) (h : room < Value.nestingItems items)
    (rest : Bytes) :
    ∃ around : List Container, around.length = room + 1 ∧
      readItems (readValue room) found used (Value.encodeItems items ++ rest) =
        .error (DecodeError.nestingTooDeep.inside around) := by
  induction items generalizing found used with
  | nil => exact absurd h (Nat.not_lt_zero room)
  | cons item items ih =>
    have hitem := hitems item List.mem_cons_self
    rw [Value.nestingItems] at h
    rw [Value.encodeItems, List.append_assoc]
    -- An item that fits is passed over; the first that does not is the fault.
    by_cases hfits : item.nesting ≤ room
    · rw [readItems_item (reads_value room) (form_encode hitem hfits)]
      exact ih (fun other hother => hitems other (List.mem_cons_of_mem _ hother)) (by omega)
    · obtain ⟨around, hlength, hfault⟩ :=
        hdeep hitem (by omega) (Value.encodeItems items ++ rest)
      obtain ⟨byte, tail, htext, hbyte⟩ := hitem.exists_cons_encode
      refine ⟨.list :: around, congrArg (· + 1) hlength, ?_⟩
      rw [htext, List.cons_append] at hfault ⊢
      exact readItems_fault hbyte hfault

/-- The first value that is nested too deep is the fault of a dictionary. -/
theorem readEntries_encodeEntries_tooDeep {entries : List (Bytes × Value)}
    {found : List (Entry Value)} {used : Nat} (hentries : ∀ entry ∈ entries, entry.2.WellFormed)
    (h : room < Value.nestingEntries entries) (rest : Bytes) :
    ∃ around : List Container, around.length = room + 1 ∧
      readEntries (readValue room) found used (Value.encodeEntries entries ++ rest) =
        .error (DecodeError.nestingTooDeep.inside around) := by
  induction entries generalizing found used with
  | nil => exact absurd h (Nat.not_lt_zero room)
  | cons entry entries ih =>
    obtain ⟨key, value⟩ := entry
    have hvalue : value.WellFormed := hentries (key, value) List.mem_cons_self
    rw [Value.nestingEntries] at h
    rw [Value.encodeEntries, List.append_assoc]
    -- A value that fits is passed over; the first that does not is the fault.
    by_cases hfits : value.nesting ≤ room
    · rw [readEntries_entry (reads_value room) (stringForm_encodeString key)
        (form_encode hvalue hfits)]
      exact ih (fun other hother => hentries other (List.mem_cons_of_mem _ hother)) (by omega)
    · obtain ⟨around, hlength, hfault⟩ :=
        hdeep hvalue (by omega) (Value.encodeEntries entries ++ rest)
      obtain ⟨byte, tail, htext, -⟩ := hvalue.exists_cons_encode
      refine ⟨.dict :: around, congrArg (· + 1) hlength, ?_⟩
      rw [List.append_assoc]
      exact readEntries_fault (stringForm_encodeString key) (by simp [htext]) hfault

end TooDeep

/-- **Too deep**: what is written for a value nested deeper than there is room is refused, inside
a wrapper for each list and dictionary there is room for. -/
theorem readValue_encode_tooDeep (room : Nat) {value : Value} (hvalue : value.WellFormed)
    (h : room < value.nesting) (rest : Bytes) :
    ∃ around : List Container, around.length = room ∧
      readValue room (value.encode ++ rest) =
        .error (DecodeError.nestingTooDeep.inside around) := by
  induction room generalizing value rest with
  | zero =>
    refine ⟨[], rfl, ?_⟩
    cases hvalue with
    | int n => exact absurd h (Nat.lt_irrefl 0)
    | bytes data => exact absurd h (Nat.lt_irrefl 0)
    | list hitems => exact readValue_list_zero _
    | dict hsorted hentries => exact readValue_dict_zero _
  | succ room ih =>
    cases hvalue with
    | int n => exact absurd h (Nat.not_lt_zero _)
    | bytes data => exact absurd h (Nat.not_lt_zero _)
    | list hitems =>
      rw [Value.nesting] at h
      obtain ⟨around, hlength, hfault⟩ :=
        readItems_encodeItems_tooDeep ih hitems (by omega) ([closing] ++ rest)
      refine ⟨around, hlength, ?_⟩
      rw [Value.encode, List.cons_append, List.append_assoc, readValue_list, hfault]
      rfl
    | dict hsorted hentries =>
      rw [Value.nesting] at h
      obtain ⟨around, hlength, hfault⟩ :=
        readEntries_encodeEntries_tooDeep ih hentries (by omega) ([closing] ++ rest)
      refine ⟨around, hlength, ?_⟩
      rw [Value.encode, List.cons_append, List.append_assoc, readValue_dict, hfault]
      rfl

end Swarm.Bencode
