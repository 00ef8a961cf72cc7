import Mathlib.Data.List.Induction
import Swarm.Bytes.Decimal

/-!
# The decimal text of a number is unique

Digits without a redundant leading zero are the decimal text of the number they stand for. So a
signed word has exactly one text without redundant zeros and without a negative zero, and that is
the text it is written as.

## Main results

* `ofNat_toNat`: digits without a redundant zero are the text of their number
* `eq_ofInt_iff`: the texts that stand for a signed word and have no redundant zero are its
  decimal text
* `toString_append_inj`, `toString_int_inj`: a number is told from its text, also where other text
  follows it
-/

namespace Swarm.Decimal

/-! ## Natural numbers -/

theorem toNat_of_isDigit {byte : UInt8} (h : Bytes.isDigit byte = true) :
    48 ≤ byte.toNat ∧ byte.toNat ≤ 57 := by
  simpa [Bytes.isDigit, UInt8.le_iff_toNat_le] using h

/-- A digit is the digit of its value. -/
theorem digit_toNat_sub {byte : UInt8} (h : Bytes.isDigit byte = true) :
    digit (byte.toNat - 48) = byte := by
  have hrange := toNat_of_isDigit h
  apply UInt8.toNat_inj.mp
  rw [toNat_digit (by omega)]
  omega

theorem ofNat_of_lt {n : Nat} (h : n < 10) : ofNat n = [digit n] := by
  rw [ofNat, if_pos h]

/-- The text of a number of several digits is the text of its first digits and its last digit. -/
theorem ofNat_mul_ten_add {n last : Nat} (hn : 0 < n) (hlast : last < 10) :
    ofNat (n * 10 + last) = ofNat n ++ [digit last] := by
  rw [ofNat, if_neg (by omega), show (n * 10 + last) / 10 = n by omega,
    show (n * 10 + last) % 10 = last by omega]

/-- **Uniqueness.** Digits without a redundant zero are the text of their number. -/
theorem ofNat_toNat {digits : Bytes} (hne : digits ≠ []) (hall : digits.all Bytes.isDigit = true)
    (hzero : digits.head? = some 48 → digits.length = 1) : ofNat (toNat digits) = digits := by
  induction digits using List.reverseRecOn with
  | nil => exact absurd rfl hne
  | append_singleton front last ih =>
    obtain ⟨hfront, hlast⟩ : front.all Bytes.isDigit = true ∧ Bytes.isDigit last = true := by
      simpa using hall
    have hrange := toNat_of_isDigit hlast
    rw [toNat_append]
    rcases List.eq_nil_or_concat front with rfl | ⟨_, _, hconcat⟩
    · have hvalue : toNat [] * 10 + (last.toNat - 48) = last.toNat - 48 := by simp [toNat]
      rw [hvalue, ofNat_of_lt (by omega), digit_toNat_sub hlast, List.nil_append]
    · have hne' : front ≠ [] := by simp [hconcat]
      -- Several digits do not start with a zero, so neither do the ones before the last.
      have hhead : front.head? ≠ some 48 := by
        intro h
        have hlength := hzero (by rw [List.head?_append, h]; rfl)
        simp [hconcat] at hlength
      have htext := ih hne' hfront fun h => absurd h hhead
      have hpos : 0 < toNat front := by
        rcases Nat.eq_zero_or_pos (toNat front) with h | h
        · rw [h, ofNat_of_lt (by decide)] at htext
          exact absurd (by rw [← htext]; rfl) hhead
        · exact h
      rw [ofNat_mul_ten_add hpos (by omega), htext, digit_toNat_sub hlast]

/-- The text of a number has no more octets than any digits that stand for the number. -/
theorem length_ofNat_toNat_le {digits : Bytes} (hne : digits ≠ [])
    (hall : digits.all Bytes.isDigit = true) : (ofNat (toNat digits)).length ≤ digits.length := by
  induction digits using List.reverseRecOn with
  | nil => exact absurd rfl hne
  | append_singleton front last ih =>
    obtain ⟨hfront, hlast⟩ : front.all Bytes.isDigit = true ∧ Bytes.isDigit last = true := by
      simpa using hall
    have hrange := toNat_of_isDigit hlast
    rw [toNat_append, List.length_append, List.length_singleton]
    rcases Nat.eq_zero_or_pos (toNat front) with hzero | hpos
    · rw [hzero, ofNat_of_lt (by omega), List.length_singleton]
      omega
    · have hne' : front ≠ [] := by
        rintro rfl
        exact absurd hpos (by decide)
      have hle := ih hne' hfront
      rw [ofNat_mul_ten_add hpos (by omega), List.length_append, List.length_singleton]
      omega

theorem nat?_eq_some_iff {text : Bytes} {n : Nat} :
    nat? text = some n ↔ text ≠ [] ∧ text.all Bytes.isDigit = true ∧ toNat text = n := by
  unfold nat?
  split
  · rename_i h
    simp only [Bool.or_eq_true, List.isEmpty_iff, Bool.not_eq_true'] at h
    constructor
    · intro hnone
      exact absurd hnone (by simp)
    · rintro ⟨hne, hall, -⟩
      rcases h with h | h
      · exact absurd h hne
      · exact absurd hall (by simp [h])
  · rename_i h
    simp only [Bool.or_eq_true, List.isEmpty_iff, Bool.not_eq_true', not_or,
      Bool.not_eq_false] at h
    simp [h.1, h.2]

@[simp] theorem nat?_ofNat (n : Nat) : nat? (ofNat n) = some n :=
  nat?_eq_some_iff.mpr ⟨ofNat_ne_nil n, all_isDigit_ofNat n, toNat_ofNat n⟩

/-! ## Integers -/

/-- Digits, or a minus sign and digits. -/
theorem mem_ofInt {n : Int} {byte : UInt8} (h : byte ∈ ofInt n) :
    byte = 45 ∨ Bytes.isDigit byte = true := by
  have hdigit : ∀ {b}, b ∈ ofNat n.natAbs → Bytes.isDigit b = true := fun hb =>
    List.all_eq_true.mp (all_isDigit_ofNat _) _ hb
  unfold ofInt at h
  split at h
  · rcases List.mem_cons.mp h with rfl | h
    · exact Or.inl rfl
    · exact Or.inr (hdigit h)
  · exact Or.inr (hdigit h)

theorem head?_ofNat_ne_minus (n : Nat) : (ofNat n).head? ≠ some 45 := by
  intro h
  have hmem := List.mem_of_head? h
  have hdigit := List.all_eq_true.mp (all_isDigit_ofNat n) _ hmem
  exact absurd hdigit (by decide)

theorem int?_minus (digits : Bytes) :
    int? (45 :: digits) = (nat? digits).map fun n : Nat => -(n : Int) := by
  cases h : nat? digits <;> simp [int?, h]

theorem int?_of_head? {text : Bytes} (h : text.head? ≠ some 45) :
    int? text = (nat? text).map fun n : Nat => (n : Int) := by
  unfold int?
  split
  · exact absurd rfl h
  · cases nat? text <;> simp

/-- The text of an integer is read back. -/
@[simp] theorem int?_ofInt (n : Int) : int? (ofInt n) = some n := by
  unfold ofInt
  split
  · rename_i h
    rw [int?_minus, nat?_ofNat, Option.map_some, Option.some.injEq]
    omega
  · rename_i h
    rw [int?_of_head? (head?_ofNat_ne_minus _), nat?_ofNat, Option.map_some, Option.some.injEq]
    omega

/-- The text of a signed word is read back. -/
@[simp] theorem int64?_ofInt (n : Int64) : int64? (ofInt n.toInt) = some n := by
  have hrange : Int64.minValue.toInt ≤ n.toInt ∧ n.toInt ≤ Int64.maxValue.toInt :=
    ⟨n.minValue_le_toInt, n.toInt_le⟩
  rw [int64?, int?_ofInt, Option.bind_some, if_pos hrange, Int64.ofInt_toInt]

theorem int?_of_int64? {text : Bytes} {n : Int64} (h : int64? text = some n) :
    int? text = some n.toInt := by
  obtain ⟨value, hvalue, hword⟩ := Option.bind_eq_some_iff.mp h
  split at hword
  · rename_i hrange
    rw [Int64.toInt_minValue, Int64.toInt_maxValue] at hrange
    rw [← Option.some.inj hword, hvalue, Int64.toInt_ofInt_of_le hrange.1 (by omega)]
  · exact absurd hword (by simp)

theorem head?_of_take {text rest : Bytes} {count : Nat} {byte : UInt8}
    (h : text.take (count + 1) = byte :: rest) : text.head? = some byte := by
  cases text with
  | nil => exact absurd h (by simp)
  | cons first text =>
    rw [List.take_succ_cons, List.cons.injEq] at h
    rw [h.1]
    rfl

/-- The text of an integer starts with a zero only if that is all of it. -/
theorem length_ofInt_of_take {n : Int} (h : (ofInt n).take 1 = [48]) :
    (ofInt n).length = 1 := by
  unfold ofInt at h ⊢
  split
  · rename_i hneg
    rw [if_pos hneg, List.take_succ_cons] at h
    exact absurd (List.cons.inj h).1 (by decide)
  · rename_i hneg
    rw [if_neg hneg] at h
    exact length_ofNat_of_head? (head?_of_take h)

/-- No zero follows the minus sign of an integer. -/
theorem take_two_ofInt_ne (n : Int) : (ofInt n).take 2 ≠ [45, 48] := by
  intro h
  unfold ofInt at h
  split at h
  · rename_i hneg
    have hhead : (ofNat n.natAbs).head? ≠ some 48 := head?_ofNat_ne_zero (by omega)
    rw [List.take_succ_cons, List.cons.injEq] at h
    exact hhead (head?_of_take h.2)
  · exact head?_ofNat_ne_minus n.natAbs (head?_of_take h)

/-- **Uniqueness.** A text that stands for a signed word, and has neither a redundant zero nor a
zero after a minus sign, is the decimal text of the word. -/
theorem eq_ofInt_iff {text : Bytes} {n : Int64} :
    text = ofInt n.toInt ↔ ¬(1 < text.length ∧ text.take 1 = [48]) ∧
      ¬(1 < text.length ∧ text.take 2 = [45, 48]) ∧ int64? text = some n := by
  constructor
  · rintro rfl
    refine ⟨?_, ?_, int64?_ofInt n⟩
    · rintro ⟨hlength, htake⟩
      rw [length_ofInt_of_take htake] at hlength
      exact absurd hlength (by decide)
    · rintro ⟨-, htake⟩
      exact take_two_ofInt_ne _ htake
  · rintro ⟨hzero, hminus, hword⟩
    have hint := int?_of_int64? hword
    by_cases hhead : text.head? = some 45
    · -- a minus sign and digits, the first of which is no zero
      obtain ⟨digits, rfl⟩ : ∃ digits, text = 45 :: digits := List.head?_eq_some_iff.mp hhead
      rw [int?_minus, Option.map_eq_some_iff] at hint
      obtain ⟨value, hvalue, hn⟩ := hint
      obtain ⟨hne, hall, htoNat⟩ := nat?_eq_some_iff.mp hvalue
      have hfirst : digits.head? ≠ some 48 := by
        intro h
        obtain ⟨rest, rfl⟩ : ∃ rest, digits = 48 :: rest := List.head?_eq_some_iff.mp h
        exact hminus ⟨by simp, rfl⟩
      have htext := ofNat_toNat hne hall fun h => absurd h hfirst
      rw [htoNat] at htext
      have hpos : value ≠ 0 := by
        rintro rfl
        apply hfirst
        rw [← htext, ofNat_of_lt (by decide)]
        rfl
      rw [ofInt, if_pos (by omega), show n.toInt.natAbs = value by omega, htext]
    · -- digits, the first of which is a zero only if there is no other
      rw [int?_of_head? hhead, Option.map_eq_some_iff] at hint
      obtain ⟨value, hvalue, hn⟩ := hint
      obtain ⟨hne, hall, htoNat⟩ := nat?_eq_some_iff.mp hvalue
      have htext := ofNat_toNat hne hall fun h => by
        by_contra hlength
        obtain ⟨rest, rfl⟩ : ∃ rest, text = 48 :: rest := List.head?_eq_some_iff.mp h
        refine hzero ⟨?_, rfl⟩
        rw [List.length_cons] at hlength ⊢
        omega
      rw [htoNat] at htext
      rw [ofInt, if_neg (by omega), show n.toInt.natAbs = value by omega, htext]

/-! ## Numbers in a text -/

theorem isDigit_of_mem_toString {n : Nat} {c : Char} (h : c ∈ (toString n).toList) :
    c.isDigit = true := by
  rw [Nat.toString_eq_repr, Nat.toList_repr] at h
  exact Nat.isDigit_of_mem_toDigits (by decide) (by decide) h

theorem toString_inj {m n : Nat} : toString m = toString n ↔ m = n := by
  refine ⟨fun h => ?_, fun h => h ▸ rfl⟩
  rw [Nat.toString_eq_ofList_toDigits, Nat.toString_eq_ofList_toDigits, String.ofList_inj] at h
  rw [← Nat.ofDigitChars_ten_toDigits (n := m), h, Nat.ofDigitChars_ten_toDigits]

/-- A number is told from what follows it, where that begins with no digit. -/
theorem toString_append_inj {m n : Nat} {sign : Char} {rest rest' : String}
    (hsign : sign.isDigit = false)
    (h : toString m ++ (String.singleton sign ++ rest) =
      toString n ++ (String.singleton sign ++ rest')) :
    m = n ∧ rest = rest' := by
  -- the number is what stands before the first character that is no digit
  have hdigits : ∀ (n : Nat) (rest : String),
      (toString n ++ (String.singleton sign ++ rest)).toList.takeWhile Char.isDigit =
        (toString n).toList := by
    intro n rest
    rw [String.toList_append, List.takeWhile_append_of_pos fun _ => isDigit_of_mem_toString]
    simp [hsign]
  have hnumber : toString m = toString n := by
    rw [← String.toList_inj, ← hdigits m rest, h, hdigits]
  refine ⟨toString_inj.mp hnumber, ?_⟩
  rw [hnumber] at h
  exact (String.append_right_inj _).mp ((String.append_right_inj _).mp h)

/-- No natural number is written with a minus sign. -/
theorem minus_append_ne_toString (m n : Nat) : "-" ++ toString m ≠ toString n := by
  intro h
  have hminus : '-' ∈ (toString n).toList := by
    rw [← h, String.toList_append]
    exact List.mem_append_left _ (List.mem_singleton_self _)
  exact absurd (isDigit_of_mem_toString hminus) (by decide)

theorem toString_int_inj {m n : Int} : toString m = toString n ↔ m = n := by
  refine ⟨fun h => ?_, fun h => h ▸ rfl⟩
  rw [Int.toString_eq_repr, Int.toString_eq_repr, Int.repr_eq_if, Int.repr_eq_if] at h
  split at h <;> split at h
  next hm hn =>
    have hnumber := toString_inj.mp h
    omega
  next => exact absurd h.symm (minus_append_ne_toString _ _)
  next => exact absurd h (minus_append_ne_toString _ _)
  next hm hn =>
    have hnumber := toString_inj.mp ((String.append_right_inj _).mp h)
    omega
end Swarm.Decimal
