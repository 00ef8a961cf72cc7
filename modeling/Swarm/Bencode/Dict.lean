import Swarm.Bytes.Basic

/-!
# Dictionaries with octet keys

A dictionary is the list of its entries in strictly ascending order of the keys, so two
dictionaries with the same entries are equal, whatever order they were filled in.

## Main definitions

* `Dict.Sorted`: the keys ascend strictly
* `Dict.insert`, `Dict.erase`, `Dict.get?`: the operations of a finite map
* `Dict.ofList`: the dictionary that entries fill in order, the last entry of a key winning

## Main results

* `Dict.get?_insert`, `Dict.get?_erase`: looking up after an insertion and after a removal
* `Dict.sorted_insert`, `Dict.sorted_ofList`: insertion keeps the order
* `Dict.ofList_of_sorted`: entries in order are a dictionary already
-/

namespace Swarm.Dict

variable {α : Type}

/-- The keys ascend strictly. -/
def Sorted (entries : List (Bytes × α)) : Prop :=
  entries.Pairwise fun a b => a.1 < b.1

/-- The value stored under a key. -/
def get? (key : Bytes) : List (Bytes × α) → Option α
  | [] => none
  | (k, v) :: rest => if key = k then some v else get? key rest

/-- Stores a value under a key, in place of any value the key had. -/
def insert (key : Bytes) (value : α) : List (Bytes × α) → List (Bytes × α)
  | [] => [(key, value)]
  | (k, v) :: rest =>
    if key < k then (key, value) :: (k, v) :: rest
    else if key = k then (key, value) :: rest
    else (k, v) :: insert key value rest

/-- Removes a key and its value. -/
def erase (key : Bytes) (entries : List (Bytes × α)) : List (Bytes × α) :=
  entries.filter fun entry => entry.1 ≠ key

/-- The dictionary that the entries fill in order: the last entry of a key wins. -/
def ofList (entries : List (Bytes × α)) : List (Bytes × α) :=
  entries.foldl (fun dict entry => insert entry.1 entry.2 dict) []

@[simp] theorem get?_nil (key : Bytes) : get? key ([] : List (Bytes × α)) = none := rfl

theorem get?_insert (key other : Bytes) (value : α) (entries : List (Bytes × α)) :
    get? other (insert key value entries) =
      if other = key then some value else get? other entries := by
  induction entries with
  | nil => simp [insert, get?]
  | cons entry rest ih =>
    obtain ⟨k, v⟩ := entry
    by_cases h : key < k
    · simp [insert, get?, h]
    · by_cases hk : key = k
      · subst hk
        by_cases ho : other = key <;> simp [insert, get?, h, ho]
      · by_cases ho : other = k
        · subst ho
          simp [insert, get?, h, hk, Ne.symm hk]
        · simp [insert, get?, h, hk, ho, ih]

theorem get?_erase (key other : Bytes) (entries : List (Bytes × α)) :
    get? other (erase key entries) = if other = key then none else get? other entries := by
  induction entries with
  | nil => simp [erase]
  | cons entry rest ih =>
    obtain ⟨k, v⟩ := entry
    rw [erase] at ih
    by_cases hk : k = key
    · -- the entry is removed
      rw [erase, List.filter_cons_of_neg (by simpa using hk), ih]
      by_cases ho : other = key
      · rw [if_pos ho, if_pos ho]
      · rw [if_neg ho, if_neg ho, get?, if_neg fun h => ho (h.trans hk)]
    · rw [erase, List.filter_cons_of_pos (by simpa using hk), get?, get?, ih]
      by_cases ho : other = k
      · rw [if_pos ho, if_pos ho, if_neg fun h => hk (ho.symm.trans h)]
      · rw [if_neg ho, if_neg ho]

theorem mem_insert {key : Bytes} {value : α} {entries : List (Bytes × α)} {entry : Bytes × α}
    (h : entry ∈ insert key value entries) : entry = (key, value) ∨ entry ∈ entries := by
  induction entries with
  | nil => exact Or.inl (List.mem_singleton.mp h)
  | cons first rest ih =>
    obtain ⟨k, v⟩ := first
    rw [insert] at h
    split at h
    · simpa using h
    · split at h
      · rcases List.mem_cons.mp h with rfl | h
        · exact Or.inl rfl
        · exact Or.inr (List.mem_cons_of_mem _ h)
      · rcases List.mem_cons.mp h with rfl | h
        · exact Or.inr List.mem_cons_self
        · exact (ih h).imp_right (List.mem_cons_of_mem _)

/-- Insertion keeps the order of the keys. -/
theorem sorted_insert (key : Bytes) (value : α) {entries : List (Bytes × α)}
    (h : Sorted entries) : Sorted (insert key value entries) := by
  induction entries with
  | nil => exact List.pairwise_singleton _ _
  | cons first rest ih =>
    obtain ⟨k, v⟩ := first
    obtain ⟨hfirst, hrest⟩ := List.pairwise_cons.mp h
    rw [insert]
    split
    · -- the new key comes first
      rename_i hlt
      refine List.pairwise_cons.mpr ⟨fun entry he => ?_, h⟩
      rcases List.mem_cons.mp he with rfl | he
      · exact hlt
      · exact List.lt_trans hlt (hfirst entry he)
    · rename_i hge
      split
      · -- the key is there already
        rename_i heq
        subst heq
        exact List.pairwise_cons.mpr ⟨hfirst, hrest⟩
      · -- the new key goes further back
        rename_i hne
        refine List.pairwise_cons.mpr ⟨fun entry he => ?_, ih hrest⟩
        rcases mem_insert he with rfl | he
        · exact (List.le_iff_lt_or_eq.mp (List.not_lt.mp hge)).resolve_right (Ne.symm hne)
        · exact hfirst entry he

/-- A dictionary filled from entries has its keys in ascending order. -/
theorem sorted_ofList (entries : List (Bytes × α)) : Sorted (ofList entries) := by
  have filled : ∀ (entries start : List (Bytes × α)), Sorted start →
      Sorted (entries.foldl (fun dict entry => insert entry.1 entry.2 dict) start) := by
    intro entries
    induction entries with
    | nil => exact fun _ h => h
    | cons entry rest ih => exact fun start h => ih _ (sorted_insert entry.1 entry.2 h)
  exact filled entries [] List.Pairwise.nil

/-- A value under a key past all others goes to the end. -/
theorem insert_of_lt {key : Bytes} {value : α} {entries : List (Bytes × α)}
    (h : ∀ entry ∈ entries, entry.1 < key) :
    insert key value entries = entries ++ [(key, value)] := by
  induction entries with
  | nil => rfl
  | cons first rest ih =>
    obtain ⟨k, v⟩ := first
    have hk : k < key := h (k, v) List.mem_cons_self
    have hne : key ≠ k := fun heq => List.lt_irrefl k (heq ▸ hk)
    rw [insert, if_neg (List.lt_asymm hk), if_neg hne,
      ih fun entry he => h entry (List.mem_cons_of_mem _ he), List.cons_append]

/-- Entries in ascending order of their keys are a dictionary already. -/
theorem ofList_of_sorted {entries : List (Bytes × α)} (h : Sorted entries) :
    ofList entries = entries := by
  have filled : ∀ (rest start : List (Bytes × α)), Sorted (start ++ rest) →
      rest.foldl (fun dict entry => insert entry.1 entry.2 dict) start = start ++ rest := by
    intro rest
    induction rest with
    | nil => simp
    | cons entry rest ih =>
      intro start hs
      -- Every key that is there is below the next one, which goes to the end.
      have hlt : ∀ before ∈ start, before.1 < entry.1 := fun before hb =>
        (List.pairwise_append.mp hs).2.2 before hb entry List.mem_cons_self
      rw [List.foldl_cons, insert_of_lt hlt, ih _ (by simpa using hs)]
      simp
  exact filled entries [] h

end Swarm.Dict
