/-!
# Sizes for a reader

A size of at least a kilobyte is shown with two places in the greatest unit it reaches. The size
is first brought to the nearest number of 53 significant bits; then the quotient is rounded to two
places. Both times a tie goes to the even neighbour.

## Main definitions

* `roundDiv`: a quotient rounded to the nearest whole number
* `significant`: the nearest number of 53 significant bits
* `sizeText`: the text of a size
-/

namespace Swarm.Command

/-- The quotient of two numbers rounded to the nearest whole number, a tie to the even one. -/
def roundDiv (dividend divisor : Nat) : Nat :=
  let quotient := dividend / divisor
  let rest := dividend % divisor
  if rest * 2 < divisor then quotient
  else if divisor < rest * 2 then quotient + 1
  -- A tie: the quotient is even, or the next one is.
  else quotient + quotient % 2

/-- The nearest number whose binary digits are 53 and zeros. -/
def significant (n : Nat) : Nat :=
  -- A number of at most 53 digits stays as it is, with a unit of one.
  let unit := 1 <<< (n.log2 + 1 - 53)
  roundDiv n unit * unit

/-- A number of bytes in a unit, with two places. -/
def inUnit (bytes unit : Nat) : String :=
  let hundredths := roundDiv (significant bytes * 100) unit
  let places := hundredths % 100
  s!"{hundredths / 100}." ++ (if places < 10 then "0" else "") ++ toString places

/-! The units of a size, each a thousand and twenty-four of the one before. -/

def kilobyte : Nat := 1024

def megabyte : Nat := 1024 * kilobyte

def gigabyte : Nat := 1024 * megabyte

/-- The text of a size. -/
def sizeText (bytes : Int) : String :=
  if gigabyte ≤ bytes then inUnit bytes.toNat gigabyte ++ " GB"
  else if megabyte ≤ bytes then inUnit bytes.toNat megabyte ++ " MB"
  else if kilobyte ≤ bytes then inUnit bytes.toNat kilobyte ++ " KB"
  else s!"{bytes} bytes"

end Swarm.Command
