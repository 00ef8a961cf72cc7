import Swarm.Bytes.Basic

/-!
# Decimal text

Lengths and integers are written as ASCII decimal digits without redundant zeros. Reading a
length accepts redundant leading zeros; reading an integer is for the format's own checks, and
takes only what fits a signed 64-bit word.

## Main definitions

* `Decimal.ofNat`, `Decimal.ofInt`: the canonical text of a number
* `Decimal.toNat`: the number a sequence of digits stands for
* `Decimal.int64?`: the signed word a text stands for

## Main results

* `Decimal.toNat_ofNat`: a natural number is read back from its text
* `Decimal.length_ofNat_of_head?`: the text of a natural number has no redundant zero
-/

namespace Swarm.Decimal

/-- The ASCII digit of a value below ten. -/
def digit (value : Nat) : UInt8 :=
  UInt8.ofNat (48 + value)

/-- The decimal digits of a natural number, without leading zeros. -/
def ofNat (n : Nat) : Bytes :=
  if n < 10 then [digit n] else ofNat (n / 10) ++ [digit (n % 10)]

/-- The decimal text of an integer: a minus sign if it is negative, then its digits. -/
def ofInt (n : Int) : Bytes :=
  if n < 0 then 45 :: ofNat n.natAbs else ofNat n.natAbs

/-- The number a sequence of ASCII digits stands for, most significant digit first. -/
def toNat (digits : Bytes) : Nat :=
  digits.foldl (fun value byte => value * 10 + (byte.toNat - 48)) 0

/-- The natural number a nonempty sequence of ASCII digits stands for. -/
def nat? (text : Bytes) : Option Nat :=
  if text.isEmpty || !text.all Bytes.isDigit then none else some (toNat text)

/-- The integer that digits, after an optional minus sign, stand for. -/
def int? : Bytes → Option Int
  | 45 :: digits => (nat? digits).map fun n => -(n : Int)
  | digits => (nat? digits).map fun n => (n : Int)

/-- The signed 64-bit word that digits, after an optional minus sign, stand for. -/
def int64? (text : Bytes) : Option Int64 :=
  (int? text).bind fun n =>
    if Int64.minValue.toInt ≤ n ∧ n ≤ Int64.maxValue.toInt then some (Int64.ofInt n) else none

theorem toNat_append (digits : Bytes) (byte : UInt8) :
    toNat (digits ++ [byte]) = toNat digits * 10 + (byte.toNat - 48) := by
  simp [toNat]

theorem toNat_digit {value : Nat} (h : value < 10) : (digit value).toNat = 48 + value := by
  simp only [digit, UInt8.toNat_ofNat']
  omega

theorem isDigit_digit {value : Nat} (h : value < 10) : Bytes.isDigit (digit value) = true := by
  have h' := toNat_digit h
  simp only [Bytes.isDigit, Bool.and_eq_true, decide_eq_true_eq, UInt8.le_iff_toNat_le]
  simp [h']
  omega

/-- A natural number is read back from its text. -/
@[simp] theorem toNat_ofNat (n : Nat) : toNat (ofNat n) = n := by
  fun_induction ofNat n with
  | case1 n h => simp [toNat, toNat_digit h]
  | case2 n h ih =>
    rw [toNat_append, ih, toNat_digit (Nat.mod_lt _ (by decide))]
    omega

/-- The text of a natural number holds digits only. -/
theorem all_isDigit_ofNat (n : Nat) : (ofNat n).all Bytes.isDigit = true := by
  fun_induction ofNat n with
  | case1 n h => simp [isDigit_digit h]
  | case2 n h ih => simp [ih, isDigit_digit (Nat.mod_lt n (by decide : 0 < 10))]

/-- The text of a natural number is not empty. -/
theorem ofNat_ne_nil (n : Nat) : ofNat n ≠ [] := by
  rw [ofNat]
  split <;> simp

/-- The text of a positive number does not start with a zero. -/
theorem head?_ofNat_ne_zero {n : Nat} (h : 0 < n) : (ofNat n).head? ≠ some 48 := by
  fun_induction ofNat n with
  | case1 n hn =>
    intro hzero
    have := toNat_digit hn
    rw [List.head?_cons, Option.some.injEq] at hzero
    rw [hzero] at this
    exact absurd this (by simp; omega)
  | case2 n hn ih =>
    -- The first digit is that of the number without its last digit.
    obtain ⟨first, rest, htext⟩ := List.exists_cons_of_ne_nil (ofNat_ne_nil (n / 10))
    have := ih (by omega)
    rw [htext] at this ⊢
    exact this

/-- The text of a natural number has no redundant zero. -/
theorem length_ofNat_of_head? {n : Nat} (h : (ofNat n).head? = some 48) :
    (ofNat n).length = 1 := by
  rcases Nat.eq_zero_or_pos n with rfl | hn
  · simp [ofNat]
  · exact absurd h (head?_ofNat_ne_zero hn)

end Swarm.Decimal
