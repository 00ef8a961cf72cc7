import Swarm.Bencode.Encode

/-!
# The format of bencode

Which octets are a written form of which value, said without reading or writing them. A value has
many written forms: a length may have redundant leading zeros, and the entries of a dictionary may
come in any order and repeat a key, of which the last counts. An integer has one form only.

A written form is canonical if no length has a redundant zero and the keys of every dictionary
ascend; it is then the one that the library writes.

## Main definitions

* `StringForm`: the written forms of a string of octets
* `Form`: the written forms of a value inside which so many lists and dictionaries may be open
* `Canonical`: the octets that are a canonical written form

## Main results

* `form_encode`: what the library writes for a value is a written form of it
* `canonical_encode`: what the library writes for a value is canonical
-/

namespace Swarm.Bencode

/-- The written forms of a string: digits that stand for its length, a colon and its octets. -/
inductive StringForm : Bytes → Bytes → Prop where
  | mk {digits data : Bytes} (hdigits : digits ≠ []) (hall : digits.all Bytes.isDigit = true)
      (hlength : Decimal.toNat digits = data.length) : StringForm (digits ++ colon :: data) data

mutual

/-- The written forms of a value inside which `room` lists and dictionaries may be open at once. -/
inductive Form : Nat → Bytes → Value → Prop where
  | int {room : Nat} (n : Int64) :
      Form room (openInt :: (Decimal.ofInt n.toInt ++ [closing])) (.int n)
  | bytes {room : Nat} {text data : Bytes} (htext : StringForm text data) :
      Form room text (.bytes data)
  | list {room : Nat} {text : Bytes} {items : List Value} (htext : ItemsForm room text items) :
      Form (room + 1) (openList :: (text ++ [closing])) (.list items)
  | dict {room : Nat} {text : Bytes} {entries : List (Bytes × Value)}
      (htext : EntriesForm room text entries) :
      Form (room + 1) (openDict :: (text ++ [closing])) (.dict (Dict.ofList entries))

/-- The written forms of values one after the other. -/
inductive ItemsForm : Nat → Bytes → List Value → Prop where
  | nil {room : Nat} : ItemsForm room [] []
  | cons {room : Nat} {text rest : Bytes} {item : Value} {items : List Value}
      (htext : Form room text item) (hrest : ItemsForm room rest items) :
      ItemsForm room (text ++ rest) (item :: items)

/-- The written forms of entries one after the other, each a key and its value. -/
inductive EntriesForm : Nat → Bytes → List (Bytes × Value) → Prop where
  | nil {room : Nat} : EntriesForm room [] []
  | cons {room : Nat} {keyText text rest key : Bytes} {value : Value}
      {entries : List (Bytes × Value)} (hkey : StringForm keyText key)
      (htext : Form room text value) (hrest : EntriesForm room rest entries) :
      EntriesForm room (keyText ++ text ++ rest) ((key, value) :: entries)

end

/-- The canonical written form of a string: the digits of its length start with a zero only if
that is all of them. -/
inductive CanonicalString : Bytes → Bytes → Prop where
  | mk {digits data : Bytes} (hdigits : digits ≠ []) (hall : digits.all Bytes.isDigit = true)
      (hlength : Decimal.toNat digits = data.length)
      (hzero : digits.head? = some 48 → digits.length = 1) :
      CanonicalString (digits ++ colon :: data) data

mutual

/-- The octets that are a canonical written form of a value. -/
inductive Canonical : Bytes → Prop where
  | int (n : Int64) : Canonical (openInt :: (Decimal.ofInt n.toInt ++ [closing]))
  | bytes {text data : Bytes} (htext : CanonicalString text data) : Canonical text
  | list {text : Bytes} (htext : CanonicalItems text) :
      Canonical (openList :: (text ++ [closing]))
  | dict {text : Bytes} {keys : List Bytes} (htext : CanonicalEntries text keys)
      (hkeys : keys.Pairwise (· < ·)) : Canonical (openDict :: (text ++ [closing]))

/-- Canonical written forms one after the other. -/
inductive CanonicalItems : Bytes → Prop where
  | nil : CanonicalItems []
  | cons {text rest : Bytes} (htext : Canonical text) (hrest : CanonicalItems rest) :
      CanonicalItems (text ++ rest)

/-- Canonical written forms of entries one after the other, with their keys. -/
inductive CanonicalEntries : Bytes → List Bytes → Prop where
  | nil : CanonicalEntries [] []
  | cons {keyText text rest key : Bytes} {keys : List Bytes} (hkey : CanonicalString keyText key)
      (htext : Canonical text) (hrest : CanonicalEntries rest keys) :
      CanonicalEntries (keyText ++ text ++ rest) (key :: keys)

end

/-! ## What the library writes -/

theorem stringForm_encodeString (data : Bytes) : StringForm (encodeString data) data :=
  .mk (Decimal.ofNat_ne_nil _) (Decimal.all_isDigit_ofNat _) (Decimal.toNat_ofNat _)

theorem canonicalString_encodeString (data : Bytes) : CanonicalString (encodeString data) data :=
  .mk (Decimal.ofNat_ne_nil _) (Decimal.all_isDigit_ofNat _) (Decimal.toNat_ofNat _)
    Decimal.length_ofNat_of_head?

mutual

/-- **What the library writes** for a value is a written form of it. -/
theorem form_encode {room : Nat} : ∀ {value : Value}, value.WellFormed → value.nesting ≤ room →
    Form room value.encode value
  | .int n, _, _ => .int n
  | .bytes data, _, _ => .bytes (stringForm_encodeString data)
  | .list items, .list hitems, hroom => by
    rw [Value.nesting] at hroom
    obtain ⟨inner, rfl⟩ : ∃ inner, room = inner + 1 := ⟨room - 1, by omega⟩
    exact .list (itemsForm_encodeItems hitems (by omega))
  | .dict entries, .dict hsorted hentries, hroom => by
    rw [Value.nesting] at hroom
    obtain ⟨inner, rfl⟩ : ∃ inner, room = inner + 1 := ⟨room - 1, by omega⟩
    have htext : EntriesForm inner (Value.encodeEntries entries) entries :=
      entriesForm_encodeEntries hentries (by omega)
    have hform := Form.dict htext
    -- The entries ascend, so they are the dictionary that they fill.
    rwa [Dict.ofList_of_sorted hsorted] at hform

/-- What the library writes for the items of a list is a written form of them. -/
theorem itemsForm_encodeItems {room : Nat} : ∀ {items : List Value},
    (∀ item ∈ items, item.WellFormed) → Value.nestingItems items ≤ room →
    ItemsForm room (Value.encodeItems items) items
  | [], _, _ => .nil
  | item :: rest, hitems, hroom => by
    rw [Value.nestingItems] at hroom
    exact .cons (form_encode (hitems item List.mem_cons_self) (by omega))
      (itemsForm_encodeItems (fun other h => hitems other (List.mem_cons_of_mem _ h)) (by omega))

/-- What the library writes for the entries of a dictionary is a written form of them. -/
theorem entriesForm_encodeEntries {room : Nat} : ∀ {entries : List (Bytes × Value)},
    (∀ entry ∈ entries, entry.2.WellFormed) → Value.nestingEntries entries ≤ room →
    EntriesForm room (Value.encodeEntries entries) entries
  | [], _, _ => .nil
  | (key, value) :: rest, hentries, hroom => by
    rw [Value.nestingEntries] at hroom
    exact .cons (stringForm_encodeString key)
      (form_encode (hentries (key, value) List.mem_cons_self) (by omega))
      (entriesForm_encodeEntries (fun other h => hentries other (List.mem_cons_of_mem _ h))
        (by omega))

end

mutual

/-- **What the library writes** for a value is canonical. -/
theorem canonical_encode : ∀ {value : Value}, value.WellFormed → Canonical value.encode
  | .int n, _ => .int n
  | .bytes data, _ => .bytes (canonicalString_encodeString data)
  | .list _, .list hitems => .list (canonicalItems_encodeItems hitems)
  | .dict _, .dict hsorted hentries =>
    .dict (canonicalEntries_encodeEntries hentries) (List.pairwise_map.mpr hsorted)

/-- What the library writes for the items of a list is canonical. -/
theorem canonicalItems_encodeItems : ∀ {items : List Value},
    (∀ item ∈ items, item.WellFormed) → CanonicalItems (Value.encodeItems items)
  | [], _ => .nil
  | item :: _, hitems => .cons (canonical_encode (hitems item List.mem_cons_self))
      (canonicalItems_encodeItems fun other h => hitems other (List.mem_cons_of_mem _ h))

/-- What the library writes for the entries of a dictionary is canonical. -/
theorem canonicalEntries_encodeEntries : ∀ {entries : List (Bytes × Value)},
    (∀ entry ∈ entries, entry.2.WellFormed) →
    CanonicalEntries (Value.encodeEntries entries) (entries.map (·.1))
  | [], _ => .nil
  | (key, value) :: _, hentries => .cons (canonicalString_encodeString key)
      (canonical_encode (hentries (key, value) List.mem_cons_self))
      (canonicalEntries_encodeEntries fun other h => hentries other (List.mem_cons_of_mem _ h))

end

end Swarm.Bencode
