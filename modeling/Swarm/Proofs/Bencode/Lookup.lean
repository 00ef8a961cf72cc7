import Mathlib.Data.List.Induction
import Mathlib.Data.List.Sort
import Swarm.Bencode.Dict

/-!
# Looking up in a filled dictionary

A dictionary filled from entries holds under each key the value of the last entry with that key,
and nothing that no entry has. What it holds under each key is all there is to a dictionary.

## Main results

* `Dict.get?_ofList`: the last entry of a key counts
* `Dict.mem_of_mem_ofList`: nothing is in it but what filled it
* `Dict.eq_of_get?_eq`: dictionaries that hold the same under every key are equal
* `Dict.eq_ofList_iff`: which dictionary is filled from entries with different keys
-/

namespace Swarm.Dict

variable {α : Type}

/-- Whether the keys of entries ascend is decided pair by pair. -/
instance instDecidableSorted (entries : List (Bytes × α)) : Decidable (Sorted entries) :=
  inferInstanceAs (Decidable (entries.Pairwise fun a b => a.1 < b.1))

theorem ofList_concat (entries : List (Bytes × α)) (entry : Bytes × α) :
    ofList (entries ++ [entry]) = insert entry.1 entry.2 (ofList entries) := by
  rw [ofList, List.foldl_append]
  rfl

/-- **The last entry counts**: a filled dictionary holds under a key the value of the last entry
with that key. -/
theorem get?_ofList (key : Bytes) (entries : List (Bytes × α)) :
    get? key (ofList entries) =
      (entries.reverse.find? fun entry => entry.1 == key).map (·.2) := by
  induction entries using List.reverseRecOn with
  | nil => rfl
  | append_singleton entries entry ih =>
    rw [ofList_concat, get?_insert, ih, List.reverse_append, List.reverse_singleton,
      List.singleton_append, List.find?_cons]
    by_cases h : entry.1 = key
    · rw [if_pos h.symm, beq_iff_eq.mpr h]
      rfl
    · rw [if_neg (Ne.symm h), beq_eq_false_iff_ne.mpr h]

/-- Nothing is in a filled dictionary but the entries that filled it. -/
theorem mem_of_mem_ofList {entry : Bytes × α} {entries : List (Bytes × α)}
    (h : entry ∈ ofList entries) : entry ∈ entries := by
  induction entries using List.reverseRecOn with
  | nil => exact h
  | append_singleton entries last ih =>
    rw [ofList_concat] at h
    rcases mem_insert h with rfl | h
    · exact List.mem_append_right _ (List.mem_singleton.mpr rfl)
    · exact List.mem_append_left _ (ih h)

/-! ## The entries of a dictionary -/

theorem isSome_get?_iff {key : Bytes} {entries : List (Bytes × α)} :
    (get? key entries).isSome ↔ key ∈ entries.map (·.1) := by
  induction entries with
  | nil => simp
  | cons entry entries ih =>
    rw [get?, List.map_cons, List.mem_cons, ← ih]
    by_cases h : key = entry.1 <;> simp [h]

theorem get?_eq_none_iff {key : Bytes} {entries : List (Bytes × α)} :
    get? key entries = none ↔ key ∉ entries.map (·.1) := by
  rw [← isSome_get?_iff, Bool.not_eq_true, Option.isSome_eq_false_iff, Option.isNone_iff_eq_none]

/-- What a dictionary holds under a key is the entry it has with that key. -/
theorem get?_eq_some_iff_mem {entries : List (Bytes × α)} (h : Sorted entries) {key : Bytes}
    {value : α} : get? key entries = some value ↔ (key, value) ∈ entries := by
  induction entries with
  | nil => simp
  | cons entry entries ih =>
    obtain ⟨hfirst, hrest⟩ := List.pairwise_cons.mp h
    rw [get?, List.mem_cons]
    by_cases hkey : key = entry.1
    · -- A later entry with the same key would come after itself.
      have hlater : (key, value) ∉ entries := fun hmem => by
        have hlt := hfirst _ hmem
        rw [hkey] at hlt
        exact List.lt_irrefl _ hlt
      rw [if_pos hkey, or_iff_left hlater, Option.some.injEq, Prod.ext_iff]
      simp [hkey, eq_comm]
    · rw [if_neg hkey, ih hrest, or_iff_right fun heq => hkey (congrArg Prod.fst heq)]

/-- Dictionaries that hold the same under every key are equal. -/
theorem eq_of_get?_eq {a b : List (Bytes × α)} (ha : Sorted a) (hb : Sorted b)
    (h : ∀ key, get? key a = get? key b) : a = b := by
  have hirrefl : Std.Irrefl fun a b : Bytes × α => a.1 < b.1 := ⟨fun a => List.lt_irrefl a.1⟩
  have hantisymm : Std.Antisymm fun a b : Bytes × α => a.1 < b.1 :=
    ⟨fun _ _ hab hba => absurd hba (List.lt_asymm hab)⟩
  apply List.Pairwise.eq_of_mem_iff ha hb
  rintro ⟨key, value⟩
  rw [← get?_eq_some_iff_mem ha, ← get?_eq_some_iff_mem hb, h]

/-- A filled dictionary has the keys of the entries that filled it. -/
theorem mem_keys_ofList {key : Bytes} {entries : List (Bytes × α)} :
    key ∈ (ofList entries).map (·.1) ↔ key ∈ entries.map (·.1) := by
  rw [← isSome_get?_iff, get?_ofList, Option.isSome_map, List.find?_isSome]
  simp

section Different

variable {fields : List (Bytes × α)} (hfields : (fields.map (·.1)).Nodup)
include hfields

theorem get?_ofList_of_mem {key : Bytes} {value : α} (h : (key, value) ∈ fields) :
    get? key (ofList fields) = some value := by
  -- Only one entry has the key, so it is the last one that has it.
  rw [get?_ofList]
  have hsome : (fields.reverse.find? fun entry => entry.1 == key).isSome := by
    rw [List.find?_isSome]
    exact ⟨(key, value), List.mem_reverse.mpr h, by simp⟩
  obtain ⟨entry, hfind⟩ := Option.isSome_iff_exists.mp hsome
  have hmem := List.mem_reverse.mp (List.mem_of_find?_eq_some hfind)
  have hkey : entry.1 = key := by simpa using List.find?_some hfind
  obtain rfl := List.inj_on_of_nodup_map hfields hmem h hkey
  rw [hfind]
  rfl

/-- **A dictionary is filled from entries** with different keys just if it holds the value of each
of them under its key, and has no other key. -/
theorem eq_ofList_iff {entries : List (Bytes × α)} (h : Sorted entries) :
    entries = ofList fields ↔
      (∀ field ∈ fields, get? field.1 entries = some field.2) ∧
        ∀ key ∈ entries.map (·.1), key ∈ fields.map (·.1) := by
  constructor
  · rintro rfl
    exact ⟨fun field hfield => get?_ofList_of_mem hfields hfield, fun key => mem_keys_ofList.mp⟩
  · rintro ⟨hheld, hkeys⟩
    apply eq_of_get?_eq h (sorted_ofList fields)
    intro key
    by_cases hkey : key ∈ fields.map (·.1)
    · obtain ⟨field, hfield, rfl⟩ := List.mem_map.mp hkey
      rw [hheld field hfield, get?_ofList_of_mem hfields hfield]
    · rw [get?_eq_none_iff.mpr fun hmem => hkey (hkeys key hmem),
        get?_eq_none_iff.mpr fun hmem => hkey (mem_keys_ofList.mp hmem)]

end Different

end Swarm.Dict
