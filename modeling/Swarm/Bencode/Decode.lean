import Swarm.Bencode.Encode
import Swarm.Bencode.Error

/-!
# Reading bencode

A value is read from the front of some octets, and what follows it is not looked at. A list or
dictionary may lie inside at most `maxNesting - 1` others.

One walk over the entries of a dictionary serves two readers: the decoder, which fills a
dictionary from them, and the lookup of the octets a key's value was written with.

## Main definitions

* `Reading`: a value read from the front of some octets, and how many octets it took
* `decode`: the value at the front of some octets
* `Entry`: an entry of a dictionary as it was written
* `valueSpan`: where the value of a key stands in a written dictionary
-/

namespace Swarm.Bencode

/-- How many lists and dictionaries may be open at once. -/
def maxNesting : Nat := 64

/-- What was read from the front of some octets, and how many of them it took. -/
structure Reading (α : Type) where
  value : α
  size : Nat
  size_pos : 0 < size

namespace Reading

/-- The same octets read as something made of the value. -/
def map {α β : Type} (f : α → β) (reading : Reading α) : Reading β :=
  ⟨f reading.value, reading.size, reading.size_pos⟩

end Reading

/-- Reads a length, a colon and as many octets. -/
def readString (data : Bytes) : Except DecodeError (Reading Bytes) :=
  let digits := data.takeWhile (· != colon)
  match data.dropWhile (· != colon) with
  | [] => .error .malformedString
  | _ :: rest =>
    match Decimal.nat? digits with
    | none => .error .malformedString
    | some length =>
      let contents := rest.take length
      if contents.length = length then
        .ok ⟨contents, digits.length + 1 + length, by omega⟩
      else .error .truncatedString

/-- Reads the text and the closing octet of an integer whose opening octet has been read. -/
def readInteger (data : Bytes) : Except DecodeError (Reading Int64) :=
  let body := data.takeWhile (· != closing)
  match data.dropWhile (· != closing) with
  | [] => .error .unterminatedInteger
  | _ :: _ =>
    -- A zero stands alone or not at the front, and no minus sign stands before one.
    if 1 < body.length ∧ body.take 1 = [48] then .error .leadingZero
    else if 1 < body.length ∧ body.take 2 = [45, 48] then .error .negativeZero
    else match Decimal.int64? body with
      | some n => .ok ⟨n, body.length + 1, by omega⟩
      | none => .error (.invalidDigits body)

/-- Reads items until the closing octet of their list. The items of `found`, the latest first,
have been read, and with the opening octet they took `used` octets. -/
def readItems {α : Type} (item : Bytes → Except DecodeError (Reading α)) (found : List α)
    (used : Nat) (data : Bytes) : Except DecodeError (Reading (List α)) :=
  match data with
  | [] => .error .unterminatedList
  | byte :: rest =>
    if byte = closing then .ok ⟨found.reverse, used + 1, Nat.succ_pos used⟩
    else match item (byte :: rest) with
      | .error fault => .error (.listItem fault)
      | .ok reading =>
        readItems item (reading.value :: found) (used + reading.size)
          ((byte :: rest).drop reading.size)
termination_by data.length
decreasing_by
  have := reading.size_pos
  simp only [List.length_drop, List.length_cons]
  omega

/-- An entry of a dictionary as it was written. -/
structure Entry (α : Type) where
  /-- The key with its length and colon. -/
  keyText : Bytes
  /-- The key. -/
  key : Bytes
  /-- How many octets of the dictionary stand before the value. -/
  offset : Nat
  /-- The octets of the value. -/
  raw : Bytes
  /-- The value. -/
  value : α

/-- Reads entries until the closing octet of their dictionary. The entries of `found`, the
latest first, have been read, and with the opening octet they took `used` octets. -/
def readEntries {α : Type} (item : Bytes → Except DecodeError (Reading α))
    (found : List (Entry α)) (used : Nat) (data : Bytes) :
    Except DecodeError (Reading (List (Entry α))) :=
  match data with
  | [] => .error .unterminatedDictionary
  | byte :: rest =>
    if byte = closing then .ok ⟨found.reverse, used + 1, Nat.succ_pos used⟩
    else if !Bytes.isDigit byte then .error .nonStringKey
    else match readString (byte :: rest) with
      -- A key is the dictionary's own text, so its faults have no wrapper.
      | .error fault => .error fault
      | .ok key =>
        let afterKey := (byte :: rest).drop key.size
        -- A key at the very end is an end that is missing, and not a value.
        if afterKey.isEmpty then .error .unterminatedDictionary
        else match item afterKey with
          | .error fault => .error (.dictionaryValue fault)
          | .ok reading =>
            let entry : Entry α :=
              { keyText := (byte :: rest).take key.size
                key := key.value
                offset := used + key.size
                raw := afterKey.take reading.size
                value := reading.value }
            readEntries item (entry :: found) (used + key.size + reading.size)
              (afterKey.drop reading.size)
termination_by data.length
decreasing_by
  have := reading.size_pos
  have := key.size_pos
  simp only [List.length_drop, List.length_cons]
  omega

/-- The dictionary that entries fill in order: the last entry of a key wins. -/
def dictOfEntries (entries : List (Entry Value)) : Value :=
  .ofEntries (entries.map fun entry => (entry.key, entry.value))

/-- Reads a value inside which at most `room` lists and dictionaries may be open at once. -/
def readValue (room : Nat) (data : Bytes) : Except DecodeError (Reading Value) :=
  match data with
  | [] => .error .emptyInput
  | byte :: rest =>
    if Bytes.isDigit byte then (readString (byte :: rest)).map (·.map .bytes)
    else if byte = openInt then
      (readInteger rest).map fun reading =>
        ⟨.int reading.value, reading.size + 1, Nat.succ_pos reading.size⟩
    else if byte = openList then
      match room with
      | 0 => .error .nestingTooDeep
      | room + 1 => (readItems (readValue room) [] 1 rest).map (·.map .list)
    else if byte = openDict then
      match room with
      | 0 => .error .nestingTooDeep
      | room + 1 => (readEntries (readValue room) [] 1 rest).map (·.map dictOfEntries)
    else .error (.unknownType byte)

/-- Reads a value that lies inside `depth` lists and dictionaries. -/
def decodeAt (depth : Nat) (data : Bytes) : Except DecodeError (Value × Nat) :=
  (readValue (maxNesting - depth) data).map fun reading => (reading.value, reading.size)

/-- The value at the front of some octets, and how many of them it takes. -/
def decode (data : Bytes) : Except DecodeError (Value × Nat) :=
  decodeAt 0 data

/-- The entries of the dictionary at the front of some octets, in the order they were written;
none, if no dictionary opens there. -/
def entries? (data : Bytes) : Except DecodeError (Option (List (Entry Value))) :=
  match data with
  | [] => .ok none
  | byte :: rest =>
    if byte = openDict then
      (readEntries (readValue (maxNesting - 1)) [] 1 rest).map fun reading => some reading.value
    else .ok none

/-- Where a value stands in a written dictionary. -/
structure Span where
  /-- How many octets stand before it. -/
  offset : Nat
  /-- Its octets. -/
  raw : Bytes
  deriving DecidableEq

/-- Where the value of a key stands in the dictionary at the front of some octets; none, if no
dictionary opens there or it lacks the key. The last entry of a key counts. -/
def valueSpan (data : Bytes) (key : Bytes) : Except DecodeError (Option Span) :=
  (entries? data).map fun entries =>
    (entries.getD []).reverse.find? (·.key == key) |>.map fun entry => ⟨entry.offset, entry.raw⟩

end Swarm.Bencode
