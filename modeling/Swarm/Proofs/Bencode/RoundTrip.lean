import Swarm.Proofs.Bencode.Nesting
import Swarm.Proofs.Bencode.WellFormed

/-!
# Reading back what was written

Decoding gives back every value that is nested no deeper than the decoder goes, whatever follows
it, and refuses every other at the first list or dictionary that lies inside sixty-four others.

## Main results

* `decode_encode_append`: what is written for a value is read back, or is nested too deep
-/

namespace Swarm.Bencode

/-- **Decoding undoes encoding** of a value that is nested at most sixty-four deep. Any other is
refused, with one wrapper around the fault for each of sixty-four containers. -/
theorem decode_encode_append {value : Value} (h : value.WellFormed) (rest : Bytes) :
    (value.nesting ≤ 64 → decode (value.encode ++ rest) = .ok (value, value.encode.length)) ∧
      (65 ≤ value.nesting → ∃ around : List Container, around.length = 64 ∧
        decode (value.encode ++ rest) = .error (DecodeError.nestingTooDeep.inside around)) := by
  constructor
  · intro hroom
    rw [decode_eq_ok_iff, List.take_left, List.length_append]
    exact ⟨Nat.le_add_right _ _, form_encode h hroom⟩
  · intro hdeep
    obtain ⟨around, hlength, hfault⟩ := readValue_encode_tooDeep maxNesting h hdeep rest
    refine ⟨around, hlength, ?_⟩
    rw [decode, decodeAt, Nat.sub_zero, hfault]
    rfl

/-- Both sides of the bound: a dictionary that holds the least word and a colon, and sixty-five
lists in each other. -/
theorem decode_encode_append_bound :
    let dictionary : Value := .dict [([], .list [.int Int64.minValue, .bytes [colon]]),
      ([0], .dict []), ([0, 255], .int 0)]
    let tower : Value := Nat.repeat (fun value => .list [value]) 64 (.list [])
    (dictionary.WellFormed ∧ dictionary.nesting ≤ 64 ∧
        decode (dictionary.encode ++ [closing]) = .ok (dictionary, dictionary.encode.length)) ∧
      tower.WellFormed ∧ 65 ≤ tower.nesting ∧ ∃ around : List Container, around.length = 64 ∧
        decode (tower.encode ++ []) = .error (DecodeError.nestingTooDeep.inside around) := by
  intro dictionary tower
  have hdictionary : dictionary.WellFormed ∧ dictionary.nesting ≤ 64 := by decide
  have htower : tower.WellFormed ∧ 65 ≤ tower.nesting := by decide +kernel
  exact ⟨⟨hdictionary.1, hdictionary.2,
      (decode_encode_append hdictionary.1 [closing]).1 hdictionary.2⟩,
    htower.1, htower.2, (decode_encode_append htower.1 []).2 htower.2⟩

end Swarm.Bencode
