/-!
# Punycode

A label of a domain name with characters outside ASCII is written in letters, digits and hyphens:
first its ASCII characters, then a hyphen, then where the others belong. Those are taken in
ascending order; each step is a number in base thirty-six whose digits end where they fall below
a threshold, and the thresholds follow the size of the steps so far.

## Main definitions

* `Punycode.encode`: the written form of a text
* `Punycode.decode?`: the text of a written form
-/

namespace Swarm.DomainName.Punycode

/-- The threshold of a digit: from 1 to 26, by how far its place is past the bias. -/
def threshold (place bias : Nat) : Nat :=
  if place ≤ bias then 1 else if bias + 26 ≤ place then 26 else place - bias

theorem one_le_threshold (place bias : Nat) : 1 ≤ threshold place bias := by
  rw [threshold]
  split
  · omega
  · split <;> omega

/-- How often a step can be divided by thirty-five until it is at most 455, and what is left. -/
def shrink (delta places : Nat) : Nat × Nat :=
  if 455 < delta then shrink (delta / 35) (places + 36) else (delta, places)
termination_by delta
decreasing_by omega

/-- The bias after a step. The first step is damped more. -/
def adapt (delta count : Nat) (isFirst : Bool) : Nat :=
  let damped := if isFirst then delta / 700 else delta / 2
  let (rest, places) := shrink (damped + damped / count) 0
  places + 36 * rest / (rest + 38)

/-- The character of a digit. -/
def digitChar (digit : Nat) : Char :=
  if digit < 26 then Char.ofNat (97 + digit) else Char.ofNat (22 + digit)

/-- The value of a digit of either case. -/
def digit? (c : Char) : Option Nat :=
  if 'a' ≤ c ∧ c ≤ 'z' then some (c.toNat - 97)
  else if 'A' ≤ c ∧ c ≤ 'Z' then some (c.toNat - 65)
  else if '0' ≤ c ∧ c ≤ '9' then some (c.toNat - 22)
  else none

/-- The digits of a step from a place on. -/
def digits (bias place step : Nat) : List Char :=
  let t := threshold place bias
  if step < t then [digitChar step]
  else digitChar (t + (step - t) % (36 - t)) :: digits bias (place + 36) ((step - t) / (36 - t))
termination_by step
decreasing_by
  have h₁ := one_le_threshold place bias
  have h₂ : (step - threshold place bias) / (36 - threshold place bias) ≤
    step - threshold place bias := Nat.div_le_self _ _
  omega

/-- Where the writer stands: the digits written, the latest first, the step so far, the bias,
and how many characters have been written. -/
structure Writing where
  written : List Char
  step : Nat
  bias : Nat
  done : Nat

/-- Passes one character of the text while the character `current` is written. -/
def pass (plain current : Nat) (state : Writing) (code : Nat) : Writing :=
  if code < current then { state with step := state.step + 1 }
  else if code = current then
    { written := (digits state.bias 36 state.step).reverse ++ state.written
      step := 0
      bias := adapt state.step (state.done + 1) (state.done == plain)
      done := state.done + 1 }
  else state

/-- Writes the places of the characters listed in ascending order, of which the first can be
`next` at the least. -/
def writeAll (text : List Nat) (plain : Nat) : (next : Nat) → List Nat → Writing → Writing
  | _, [], state => state
  | next, current :: rest, state =>
    let state := { state with step := state.step + (current - next) * (state.done + 1) }
    let state := text.foldl (pass plain current) state
    writeAll text plain (current + 1) rest { state with step := state.step + 1 }

/-- Puts a number into an ascending list that does not hold it. -/
def insertNew (n : Nat) : List Nat → List Nat
  | [] => [n]
  | m :: rest =>
    if n < m then n :: m :: rest else if n = m then m :: rest else m :: insertNew n rest

/-- The written form of a text, without the mark of such a form. -/
def encode (text : List Char) : List Char :=
  let codes := text.map Char.toNat
  let plain := text.filter (·.toNat < 128)
  let others := (codes.filter (128 ≤ ·)).foldr insertNew []
  let state := writeAll codes plain.length 128 others ⟨[], 0, 72, plain.length⟩
  (if plain.isEmpty then [] else plain ++ ['-']) ++ state.written.reverse

/-- Where the reader stands: the text so far, the last character put in, where the next step
starts, the bias, and the part of the step that is read: its value, the weight and the place of
its next digit. -/
structure Reading where
  text : List Nat
  code : Nat
  start : Nat
  bias : Nat
  value : Nat
  weight : Nat
  place : Nat

/-- Whether the reader stands between two steps. -/
def Reading.isBetween (state : Reading) : Bool :=
  state.place == 36

/-- Whether a number is the code point of a character. -/
def isScalar (code : Nat) : Bool :=
  code < 0xd800 || (0xdfff < code && code < 0x110000)

/-- Reads one digit; the last digit of a step puts a character in. -/
def readDigit (state : Reading) (c : Char) : Option Reading :=
  match digit? c with
  | none => none
  | some digit =>
    let value := state.value + digit * state.weight
    let t := threshold state.place state.bias
    if digit < t then
      -- The value counts the places of one character after the other, all of one text.
      let count := state.text.length + 1
      let code := state.code + value / count
      if isScalar code then
        let index := value % count
        some
          { text := state.text.take index ++ code :: state.text.drop index
            code
            start := index + 1
            bias := adapt (value - state.start) count (state.start == 0)
            value := index + 1
            weight := 1
            place := 36 }
      else none
    else
      some { state with value, weight := state.weight * (36 - t), place := state.place + 36 }

/-- The parts of a written form before and after its last hyphen. -/
def splitForm (form : List Char) : List Char × List Char :=
  let after := (form.reverse.takeWhile (· != '-')).reverse
  let before := form.take (form.length - after.length - 1)
  -- A hyphen at the front ends nothing, and is no digit either.
  if before.isEmpty then ([], form) else (before, after)

/-- The text of a written form, without the mark of such a form. -/
def decode? (form : List Char) : Option (List Char) :=
  let (plain, digits) := splitForm form
  if !plain.all (·.toNat < 128) then none
  else match digits.foldlM readDigit ⟨plain.map Char.toNat, 128, 0, 72, 0, 1, 36⟩ with
    | some state => if state.isBetween then some (state.text.map Char.ofNat) else none
    | none => none

end Swarm.DomainName.Punycode
