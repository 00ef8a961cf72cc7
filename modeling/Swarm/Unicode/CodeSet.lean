/-!
# Sets of code points

The properties that the Unicode standard gives to characters are kept as tables of ranges. The
text of a table lists, in hexadecimal, the gap before each range and the length of the range, in
turn; reading it back gives the boundaries at which membership changes.

## Main definitions

* `CodeSet`: a set of code points, given by its boundaries
* `CodeSet.contains`: membership
* `hexNumbers`: the numbers that a text lists
-/

namespace Swarm.Unicode

/-- The value of a hexadecimal digit, or nothing for the blank between two numbers. -/
def hexValue? (c : Char) : Option Nat :=
  if '0' ≤ c ∧ c ≤ '9' then some (c.toNat - 48)
  else if 'a' ≤ c ∧ c ≤ 'f' then some (c.toNat - 87)
  else none

/-- The hexadecimal numbers that the lines of a text list, blanks between them. -/
def hexNumbers (lines : List String) : Array Nat :=
  lines.foldl (fun numbers line =>
    let (number, numbers) := line.foldl (fun (number, numbers) c =>
      match hexValue? c with
      | some digit => (number * 16 + digit, numbers)
      | none => (0, numbers.push number)) (0, numbers)
    numbers.push number) #[]

/-- The sums of the numbers up to each place. -/
def runningSums (numbers : Array Nat) : Array Nat :=
  (numbers.foldl (fun (total, sums) n => (total + n, sums.push (total + n)))
    ((0 : Nat), (#[] : Array Nat))).2

/-- How many of the places from `low` up to `low + width` of an ascending sequence are at most
`value`, counted from the start, if all before `low` are and none from `low + width` on is. -/
def countUpTo (boundaries : Array Nat) (value low width : Nat) : Nat :=
  match width with
  | 0 => low
  | width + 1 =>
    let half := width / 2
    if boundaries.getD (low + half) 0 ≤ value then
      countUpTo boundaries value (low + half + 1) (width - half)
    else countUpTo boundaries value low half
termination_by width
decreasing_by all_goals omega

/-- A set of code points: membership changes at each of the ascending boundaries, and starts
outside. -/
structure CodeSet where
  boundaries : Array Nat

namespace CodeSet

/-- The set that a text of gaps and lengths stands for. -/
def ofGaps (lines : List String) : CodeSet :=
  ⟨runningSums (hexNumbers lines)⟩

/-- Whether a code point is in the set: an odd number of boundaries is at most the code point. -/
def contains (set : CodeSet) (code : Nat) : Bool :=
  countUpTo set.boundaries code 0 set.boundaries.size % 2 == 1

end CodeSet

end Swarm.Unicode
