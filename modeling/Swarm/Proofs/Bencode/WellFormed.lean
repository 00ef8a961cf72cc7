import Swarm.Bencode.Value
import Swarm.Proofs.Bencode.Lookup

/-!
# Well-formed values

Well-formedness is decided dictionary by dictionary, and filling a dictionary with well-formed
values keeps it.

## Main definitions

* `Value.isWellFormed`: the decision

## Main results

* `Value.isWellFormed_iff`: the decision is right
* `Value.wellFormed_ofEntries`: a dictionary filled with well-formed values is well formed
-/

namespace Swarm.Bencode

namespace Value

mutual

/-- Whether every dictionary in the value has its keys in strictly ascending order. -/
def isWellFormed : Value → Bool
  | .int _ => true
  | .bytes _ => true
  | .list items => itemsWellFormed items
  | .dict entries => decide (Dict.Sorted entries) && entriesWellFormed entries

/-- Whether all items of a list are well formed. -/
def itemsWellFormed : List Value → Bool
  | [] => true
  | item :: rest => isWellFormed item && itemsWellFormed rest

/-- Whether all values of a dictionary are well formed. -/
def entriesWellFormed : List (Bytes × Value) → Bool
  | [] => true
  | (_, value) :: rest => isWellFormed value && entriesWellFormed rest

end

mutual

theorem isWellFormed_iff : ∀ value : Value, value.isWellFormed = true ↔ value.WellFormed
  | .int n => ⟨fun _ => .int n, fun _ => rfl⟩
  | .bytes data => ⟨fun _ => .bytes data, fun _ => rfl⟩
  | .list items => by
    rw [isWellFormed, itemsWellFormed_iff items]
    exact ⟨.list, fun | .list hitems => hitems⟩
  | .dict entries => by
    rw [isWellFormed, Bool.and_eq_true, decide_eq_true_iff, entriesWellFormed_iff entries]
    exact ⟨fun h => .dict h.1 h.2, fun | .dict hsorted hentries => ⟨hsorted, hentries⟩⟩

theorem itemsWellFormed_iff :
    ∀ items : List Value, itemsWellFormed items = true ↔ ∀ item ∈ items, item.WellFormed
  | [] => by simp [itemsWellFormed]
  | item :: rest => by
    rw [itemsWellFormed, Bool.and_eq_true, isWellFormed_iff item, itemsWellFormed_iff rest,
      List.forall_mem_cons]

theorem entriesWellFormed_iff : ∀ entries : List (Bytes × Value),
    entriesWellFormed entries = true ↔ ∀ entry ∈ entries, entry.2.WellFormed
  | [] => by simp [entriesWellFormed]
  | (key, value) :: rest => by
    rw [entriesWellFormed, Bool.and_eq_true, isWellFormed_iff value, entriesWellFormed_iff rest,
      List.forall_mem_cons]

end

instance instDecidableWellFormed (value : Value) : Decidable value.WellFormed :=
  decidable_of_iff (value.isWellFormed = true) (isWellFormed_iff value)

namespace WellFormed

theorem items {items : List Value} (h : (Value.list items).WellFormed) :
    ∀ item ∈ items, item.WellFormed := by
  cases h with
  | list hitems => exact hitems

theorem sorted {entries : List (Bytes × Value)} (h : (Value.dict entries).WellFormed) :
    Dict.Sorted entries := by
  cases h with
  | dict hsorted _ => exact hsorted

/-- What a well-formed dictionary holds is well formed. -/
theorem of_get? {entries : List (Bytes × Value)} (h : (Value.dict entries).WellFormed)
    {key : Bytes} {value : Value} (hvalue : Dict.get? key entries = some value) :
    value.WellFormed := by
  cases h with
  | dict hsorted hentries => exact hentries _ ((Dict.get?_eq_some_iff_mem hsorted).mp hvalue)

end WellFormed

/-- A dictionary filled with well-formed values is well formed. -/
theorem wellFormed_ofEntries {entries : List (Bytes × Value)}
    (h : ∀ entry ∈ entries, entry.2.WellFormed) : (ofEntries entries).WellFormed :=
  .dict (Dict.sorted_ofList entries) fun entry hentry => h entry (Dict.mem_of_mem_ofList hentry)

end Value

end Swarm.Bencode
