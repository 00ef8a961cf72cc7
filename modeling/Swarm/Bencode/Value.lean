import Swarm.Bencode.Dict
import Swarm.Text.Utf8

/-!
# Bencode values

A value is a signed 64-bit integer, a string of octets, a list of values or a dictionary of
values. A dictionary is well formed when its keys ascend strictly, so a well-formed value has
one representation.

## Main definitions

* `Value`: the values
* `Value.WellFormed`: every dictionary in the value has its keys in ascending order
* `Value.nesting`: the longest chain of lists and dictionaries in each other
* `Value.asInt?`, `Value.asBytes?`, `Value.asText?`, `Value.asList?`, `Value.asDict?`,
  `Value.get?`: what the value is, if it is of the kind asked for
-/

namespace Swarm.Bencode

/-- A bencode value. The entries of a dictionary are meant to be in ascending key order. -/
inductive Value where
  | int (n : Int64)
  | bytes (data : Bytes)
  | list (items : List Value)
  | dict (entries : List (Bytes × Value))

namespace Value

/-- Every dictionary in the value has its keys in strictly ascending order. -/
inductive WellFormed : Value → Prop where
  | int (n : Int64) : WellFormed (.int n)
  | bytes (data : Bytes) : WellFormed (.bytes data)
  | list {items : List Value} (hitems : ∀ item ∈ items, WellFormed item) :
      WellFormed (.list items)
  | dict {entries : List (Bytes × Value)} (hsorted : Dict.Sorted entries)
      (hentries : ∀ entry ∈ entries, WellFormed entry.2) : WellFormed (.dict entries)

mutual

/-- The longest chain of lists and dictionaries in each other, an empty one counting too. -/
def nesting : Value → Nat
  | .int _ => 0
  | .bytes _ => 0
  | .list items => nestingItems items + 1
  | .dict entries => nestingEntries entries + 1

/-- The deepest nesting among the items of a list. -/
def nestingItems : List Value → Nat
  | [] => 0
  | item :: rest => max (nesting item) (nestingItems rest)

/-- The deepest nesting among the values of a dictionary. -/
def nestingEntries : List (Bytes × Value) → Nat
  | [] => 0
  | (_, value) :: rest => max (nesting value) (nestingEntries rest)

end

mutual

/-- Whether two values are equal. -/
def same : Value → Value → Bool
  | .int n, .int m => n == m
  | .bytes a, .bytes b => a == b
  | .list a, .list b => sameItems a b
  | .dict a, .dict b => sameEntries a b
  | _, _ => false

/-- Whether two lists hold equal items. -/
def sameItems : List Value → List Value → Bool
  | [], [] => true
  | v :: a, w :: b => same v w && sameItems a b
  | _, _ => false

/-- Whether two dictionaries hold equal entries. -/
def sameEntries : List (Bytes × Value) → List (Bytes × Value) → Bool
  | [], [] => true
  | (k, v) :: a, (l, w) :: b => k == l && same v w && sameEntries a b
  | _, _ => false

end

mutual

theorem same_iff : ∀ v w : Value, same v w = true ↔ v = w
  | .int n, w => by cases w <;> simp [same]
  | .bytes a, w => by cases w <;> simp [same]
  | .list a, .list b => by simp [same, sameItems_iff a b]
  | .list _, .int _ => by simp [same]
  | .list _, .bytes _ => by simp [same]
  | .list _, .dict _ => by simp [same]
  | .dict a, .dict b => by simp [same, sameEntries_iff a b]
  | .dict _, .int _ => by simp [same]
  | .dict _, .bytes _ => by simp [same]
  | .dict _, .list _ => by simp [same]

theorem sameItems_iff : ∀ a b : List Value, sameItems a b = true ↔ a = b
  | [], b => by cases b <;> simp [sameItems]
  | _ :: _, [] => by simp [sameItems]
  | v :: a, w :: b => by simp [sameItems, same_iff v w, sameItems_iff a b]

theorem sameEntries_iff : ∀ a b : List (Bytes × Value), sameEntries a b = true ↔ a = b
  | [], b => by cases b <;> simp [sameEntries]
  | _ :: _, [] => by simp [sameEntries]
  | (k, v) :: a, (l, w) :: b => by
    simp [sameEntries, same_iff v w, sameEntries_iff a b, and_assoc]

end

/-- Equality of values is decided by comparing them entry by entry. -/
instance instDecidableEq : DecidableEq Value := fun v w =>
  decidable_of_iff (same v w = true) (same_iff v w)

/-- The byte string of a text's UTF-8 octets. -/
def text (s : String) : Value :=
  .bytes (Bytes.ofString s)

/-- The dictionary that the entries fill in order: the last entry of a key wins. -/
def ofEntries (entries : List (Bytes × Value)) : Value :=
  .dict (Dict.ofList entries)

/-- The integer, if the value is one. -/
def asInt? : Value → Option Int64
  | .int n => some n
  | _ => none

/-- The octets, if the value is a byte string. -/
def asBytes? : Value → Option Bytes
  | .bytes data => some data
  | _ => none

/-- The text, if the value is a byte string of well-formed UTF-8. -/
def asText? (value : Value) : Option String :=
  value.asBytes?.bind Utf8.text?

/-- The items, if the value is a list. -/
def asList? : Value → Option (List Value)
  | .list items => some items
  | _ => none

/-- The entries, if the value is a dictionary. -/
def asDict? : Value → Option (List (Bytes × Value))
  | .dict entries => some entries
  | _ => none

/-- The value stored under a key, if this value is a dictionary that has it. -/
def get? (value : Value) (key : String) : Option Value :=
  value.asDict?.bind (Dict.get? (Bytes.ofString key))

theorem asInt?_eq_some_iff {value : Value} {n : Int64} :
    value.asInt? = some n ↔ value = .int n := by
  cases value <;> simp [asInt?]

theorem asBytes?_eq_some_iff {value : Value} {data : Bytes} :
    value.asBytes? = some data ↔ value = .bytes data := by
  cases value <;> simp [asBytes?]

theorem asList?_eq_some_iff {value : Value} {items : List Value} :
    value.asList? = some items ↔ value = .list items := by
  cases value <;> simp [asList?]

theorem asDict?_eq_some_iff {value : Value} {entries : List (Bytes × Value)} :
    value.asDict? = some entries ↔ value = .dict entries := by
  cases value <;> simp [asDict?]

theorem get?_dict (entries : List (Bytes × Value)) (key : String) :
    (dict entries).get? key = Dict.get? (Bytes.ofString key) entries := rfl

theorem get?_eq_some_iff {value held : Value} {key : String} :
    value.get? key = some held ↔
      ∃ entries, value = .dict entries ∧ Dict.get? (Bytes.ofString key) entries = some held := by
  simp only [get?, Option.bind_eq_some_iff, asDict?_eq_some_iff]

theorem asText?_eq_some_iff {value : Value} {s : String} :
    value.asText? = some s ↔ value = text s := by
  simp only [asText?, text, Option.bind_eq_some_iff, asBytes?_eq_some_iff, Utf8.text?_eq_some_iff]
  constructor
  · rintro ⟨_, rfl, rfl⟩
    rfl
  · rintro rfl
    exact ⟨_, rfl, rfl⟩

@[simp] theorem asText?_text (s : String) : (text s).asText? = some s :=
  asText?_eq_some_iff.mpr rfl

end Value

end Swarm.Bencode
