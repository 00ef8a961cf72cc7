import Swarm.Bytes.Basic

/-!
# Reading UTF-8

Names and messages are octets that should be UTF-8. A field that must be text is read strictly:
ill-formed octets make no text. A message for a person is read leniently: every maximal
ill-formed part becomes one replacement character.

## Main definitions

* `Utf8.text?`: the text that well-formed octets stand for
* `Utf8.lossy`: the text that any octets stand for

## Main results

* `Utf8.text?_ofString`: a text is read back from its own octets
* `Utf8.ofString_inj`: different texts have different octets
-/

namespace Swarm.Utf8

/-- The text that well-formed UTF-8 octets stand for. -/
def text? (data : Bytes) : Option String :=
  String.fromUTF8? ⟨data.toArray⟩

/-- A text is read back from its own octets. -/
@[simp] theorem text?_ofString (text : String) : text? (Bytes.ofString text) = some text := by
  simp [text?, Bytes.ofString, String.fromUTF8?, String.fromUTF8, text.isValidUTF8]

/-- Octets stand for a text just if they are its own. -/
theorem text?_eq_some_iff {data : Bytes} {text : String} :
    text? data = some text ↔ data = Bytes.ofString text := by
  constructor
  · intro h
    unfold text? String.fromUTF8? at h
    split at h
    · obtain rfl := Option.some.inj h
      rfl
    · exact absurd h (by simp)
  · rintro rfl
    exact text?_ofString text

/-- Different texts have different octets. -/
theorem ofString_inj {a b : String} : Bytes.ofString a = Bytes.ofString b ↔ a = b := by
  rw [← text?_eq_some_iff, text?_ofString, Option.some.injEq]

/-- The replacement character, which stands for an ill-formed part. -/
def replacement : Char := '\ufffd'

/-- Where a reader stands between two octets: between characters, or inside one whose bits so
far are `value`, which needs `missing + 1` more octets, the next of them from `low` to `high`. -/
inductive Position where
  | between
  | inside (value missing : Nat) (low high : UInt8)

/-- The position after the first octet of a character, unless no character starts so or the
octet is a whole character. -/
def lead (byte : UInt8) : Option Position :=
  let bits := byte.toNat
  if 0xc2 ≤ bits ∧ bits ≤ 0xdf then some (.inside (bits - 0xc0) 0 0x80 0xbf)
  -- The narrower ranges leave out longer forms than needed, surrogates, and what is past the
  -- last code point.
  else if bits = 0xe0 then some (.inside 0 1 0xa0 0xbf)
  else if bits = 0xed then some (.inside 0xd 1 0x80 0x9f)
  else if 0xe1 ≤ bits ∧ bits ≤ 0xef then some (.inside (bits - 0xe0) 1 0x80 0xbf)
  else if bits = 0xf0 then some (.inside 0 2 0x90 0xbf)
  else if 0xf1 ≤ bits ∧ bits ≤ 0xf3 then some (.inside (bits - 0xf0) 2 0x80 0xbf)
  else if bits = 0xf4 then some (.inside 4 2 0x80 0x8f)
  else none

/-- Reads an octet between characters: the position after it, and the text read so far. -/
def start (text : String) (byte : UInt8) : Position × String :=
  if byte < 0x80 then (.between, text.push (Char.ofNat byte.toNat))
  else match lead byte with
    | some position => (position, text)
    | none => (.between, text.push replacement)

/-- Reads one octet. An octet that cannot go on with a character ends an ill-formed part and is
read again between characters. -/
def step (state : Position × String) (byte : UInt8) : Position × String :=
  match state with
  | (.between, text) => start text byte
  | (.inside value missing low high, text) =>
    if low ≤ byte ∧ byte ≤ high then
      let value := value * 64 + (byte.toNat - 0x80)
      match missing with
      | 0 => (.between, text.push (Char.ofNat value))
      | missing + 1 => (.inside value missing 0x80 0xbf, text)
    else start (text.push replacement) byte

/-- The text of any octets: a maximal ill-formed part reads as one replacement character. -/
def lossy (data : Bytes) : String :=
  match data.foldl step (.between, "") with
  | (.between, text) => text
  | (.inside .., text) => text.push replacement

end Swarm.Utf8
