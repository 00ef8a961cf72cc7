import Swarm.Bytes.Hex

/-!
# Fixed numbers of octets

Digests, peer ids and flag words have a fixed number of octets, which is part of their type.

## Main definitions

* `Octets n`: exactly `n` octets
* `Octets.ofBytes?`: octets of the right number
* `Octets.modify`: one octet changed

## Main results

* `Octets.get_modify`: what stands at each place after one octet has changed
* `Octets.eq_of_get_eq`: octets of a fixed number are given by what stands at each place
-/

namespace Swarm

/-- Exactly `n` octets. -/
structure Octets (n : Nat) where
  data : Bytes
  length_data : data.length = n
  deriving DecidableEq

namespace Octets

variable {n : Nat}

/-- The octets, if there are as many as asked for. -/
def ofBytes? (n : Nat) (data : Bytes) : Option (Octets n) :=
  if h : data.length = n then some ⟨data, h⟩ else none

/-- All octets zero. -/
def zero (n : Nat) : Octets n :=
  ⟨List.replicate n 0, List.length_replicate⟩

/-- One octet changed; nothing is changed at a place past the end. -/
def modify (octets : Octets n) (index : Nat) (change : UInt8 → UInt8) : Octets n :=
  ⟨octets.data.modify index change, by rw [List.length_modify, octets.length_data]⟩

/-- The octet at a place, zero past the end. -/
def get (octets : Octets n) (index : Nat) : UInt8 :=
  octets.data.getD index 0

/-- The lower-case hexadecimal text. -/
def hex (octets : Octets n) : String :=
  Hex.ofBytes octets.data

@[ext] theorem ext {a b : Octets n} (h : a.data = b.data) : a = b := by
  cases a
  cases b
  exact (Octets.mk.injEq ..).mpr h

@[simp] theorem ofBytes?_data (octets : Octets n) : ofBytes? n octets.data = some octets := by
  simp [ofBytes?, octets.length_data]

theorem ofBytes?_eq_some_iff {data : Bytes} {octets : Octets n} :
    ofBytes? n data = some octets ↔ octets.data = data := by
  constructor
  · intro h
    obtain ⟨_, hoctets⟩ := Option.dite_none_right_eq_some.mp h
    rw [← Option.some.inj hoctets]
  · rintro rfl
    exact ofBytes?_data octets

/-- Octets of the right number are found to be that. -/
theorem ofBytes?_of_length {data : Bytes} (h : data.length = n) :
    ofBytes? n data = some ⟨data, h⟩ :=
  dif_pos h

/-- There is a zero past the end. -/
theorem get_of_le (octets : Octets n) {index : Nat} (h : n ≤ index) : octets.get index = 0 := by
  have hnone : octets.data[index]? = none := by
    apply List.getElem?_eq_none
    rwa [octets.length_data]
  rw [get, List.getD_eq_getElem?_getD, hnone, Option.getD_none]

theorem get_modify (octets : Octets n) (index : Nat) (change : UInt8 → UInt8) (other : Nat) :
    (octets.modify index change).get other =
      if index = other ∧ other < n then change (octets.get other) else octets.get other := by
  rcases Nat.lt_or_ge other n with hlt | hge
  · have hplace : other < octets.data.length := by rwa [octets.length_data]
    have hget := List.getElem?_eq_getElem hplace
    simp only [get, modify, List.getD_eq_getElem?_getD, List.getElem?_modify, hget, hlt, and_true]
    split <;> rfl
  · rw [get_of_le _ hge, get_of_le _ hge, if_neg (fun h => Nat.not_lt.mpr hge h.2)]

/-- Octets of a fixed number are given by each of them. -/
theorem eq_of_get_eq {a b : Octets n} (h : ∀ index, a.get index = b.get index) : a = b := by
  apply Octets.ext
  apply List.ext_getElem (a.length_data.trans b.length_data.symm)
  intro index ha hb
  have hindex := h index
  rwa [get, get, List.getD_eq_getElem?_getD, List.getD_eq_getElem?_getD,
    List.getElem?_eq_getElem ha, List.getElem?_eq_getElem hb] at hindex

end Octets

end Swarm
