/-!
# Octets

Everything the swarm exchanges, and everything a torrent file holds, is a sequence of octets.
Two sequences are compared octet by octet, and a proper beginning of a sequence comes before it.

## Main definitions

* `Bytes`: a sequence of octets
* `Bytes.ofString`: the UTF-8 octets of a text
* `Bytes.chunks`: the pieces of a given length, an incomplete last one included
-/

namespace Swarm

/-- A sequence of octets. -/
abbrev Bytes := List UInt8

namespace Bytes

/-- The UTF-8 octets of a text. -/
def ofString (text : String) : Bytes :=
  text.toUTF8.data.toList

/-- Whether an octet is one of the ASCII digits. -/
def isDigit (byte : UInt8) : Bool :=
  48 ≤ byte && byte ≤ 57

/-- The pieces of `size + 1` octets, in order; the last may be shorter. -/
def chunks (size : Nat) (data : Bytes) : List Bytes :=
  match data with
  | [] => []
  | first :: rest => (first :: rest.take size) :: chunks size (rest.drop size)
termination_by data.length
decreasing_by simp only [List.length_cons, List.length_drop]; omega

@[simp] theorem chunks_nil (size : Nat) : chunks size [] = [] := by
  rw [chunks]

theorem chunks_cons (size : Nat) (first : UInt8) (rest : Bytes) :
    chunks size (first :: rest) =
      (first :: rest.take size) :: chunks size (rest.drop size) := by
  rw [chunks]

/-- Nothing is lost: the pieces in order make up the sequence. -/
@[simp] theorem flatten_chunks (size : Nat) (data : Bytes) :
    (chunks size data).flatten = data := by
  fun_induction chunks size data with
  | case1 => rfl
  | case2 first rest ih => simp [ih]

end Bytes

end Swarm
