import Swarm.Bytes.Basic

/-!
# Whole pieces of a sequence

A sequence is cut into pieces of one length, and the last may be incomplete. The complete ones are
found by their place, and together they make up the longest beginning that can be cut into such
pieces without a rest.

## Main definitions

* `Bytes.piece`: the octets of a place among pieces of one length
* `Bytes.IsLongestWhole`: the longest beginning without a rest

## Main results

* `Bytes.filter_chunks`: the complete pieces, by their places
* `Bytes.flatten_pieces`: pieces in order make up a beginning
* `Bytes.isLongestWhole_take`: which beginning is the longest without a rest
-/

namespace Swarm.Bytes

/-- The octets of a place, if the sequence is cut into pieces of this length. -/
def piece (size : Nat) (data : Bytes) (index : Nat) : Bytes :=
  (data.drop (index * size)).take size

/-- **The longest whole beginning**: the longest one whose length is a multiple of a number. -/
structure IsLongestWhole (size : Nat) (data whole : Bytes) : Prop where
  begins : whole <+: data
  dvd : size ∣ whole.length
  longest : ∀ other, other <+: data → size ∣ other.length → other.length ≤ whole.length

variable {size : Nat} {data : Bytes} {index : Nat}

theorem length_piece (hsize : 0 < size) (h : index < data.length / size) :
    (piece size data index).length = size := by
  have hend : (index + 1) * size ≤ data.length := (Nat.le_div_iff_mul_le hsize).mp h
  rw [Nat.add_mul, Nat.one_mul] at hend
  rw [piece, List.length_take, List.length_drop]
  omega

theorem piece_zero (first : UInt8) (rest : Bytes) :
    piece (size + 1) (first :: rest) 0 = first :: rest.take size := by
  rw [piece, Nat.zero_mul, List.drop_zero, List.take_succ_cons]

theorem piece_succ (first : UInt8) (rest : Bytes) (index : Nat) :
    piece (size + 1) (first :: rest) (index + 1) = piece (size + 1) (rest.drop size) index := by
  have hplace : (index + 1) * (size + 1) = (size + index * (size + 1)) + 1 := by
    rw [Nat.add_mul, Nat.one_mul]
    omega
  rw [piece, piece, hplace, List.drop_succ_cons, List.drop_drop]

/-- **The complete pieces**, by their places. -/
theorem filter_chunks (size : Nat) (data : Bytes) :
    (chunks size data).filter (·.length == size + 1) =
      (List.range (data.length / (size + 1))).map (piece (size + 1) data) := by
  -- One piece after the other is cut off, and only the last can be incomplete.
  fun_induction chunks size data with
  | case1 => simp
  | case2 first rest ih =>
    rw [List.length_drop] at ih
    by_cases hfull : size ≤ rest.length
    · have hcount : (first :: rest).length / (size + 1) =
          (rest.length - size) / (size + 1) + 1 := by
        rw [List.length_cons, ← Nat.add_div_right _ (Nat.succ_pos size)]
        congr 1
        omega
      have hkept : ((first :: rest.take size).length == size + 1) = true := by
        simp [hfull]
      rw [List.filter_cons, if_pos hkept, ih, hcount, List.range_succ_eq_map, List.map_cons,
        List.map_map, piece_zero]
      simp only [Function.comp_def, piece_succ]
    · -- What is left is too short for a piece, and so is what follows it.
      have hcount : (first :: rest).length / (size + 1) = 0 :=
        Nat.div_eq_of_lt (by rw [List.length_cons]; omega)
      have hlost : ¬((first :: rest.take size).length == size + 1) = true := by
        simp
        omega
      have hnone : rest.length - size = 0 := by omega
      rw [List.filter_cons, if_neg hlost, ih, hcount, hnone, Nat.zero_div]
      rfl

/-- Pieces in order make up a beginning of the sequence. -/
theorem flatten_pieces (size : Nat) (data : Bytes) (count : Nat) :
    ((List.range count).map (piece size data)).flatten = data.take (count * size) := by
  induction count with
  | zero => simp
  | succ count ih =>
    rw [List.range_succ, List.map_append, List.flatten_append, ih, List.map_singleton,
      List.flatten_singleton, piece, Nat.add_mul, Nat.one_mul, List.take_add]

/-- The longest whole beginning has as many pieces as fit in. -/
theorem isLongestWhole_take (size : Nat) (data : Bytes) :
    IsLongestWhole size data (data.take (data.length / size * size)) := by
  have hlength : (data.take (data.length / size * size)).length = data.length / size * size := by
    rw [List.length_take]
    exact Nat.min_eq_left (Nat.div_mul_le_self _ _)
  refine ⟨List.take_prefix _ _, ?_, ?_⟩
  · rw [hlength]
    exact Nat.dvd_mul_left _ _
  · -- A beginning is not longer than the sequence, so it has not more pieces.
    intro other hbegins hdvd
    rw [hlength, ← Nat.div_mul_cancel hdvd]
    exact Nat.mul_le_mul_right size (Nat.div_le_div_right hbegins.length_le)

end Swarm.Bytes
