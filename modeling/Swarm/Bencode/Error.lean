import Swarm.Text.Quoted

/-!
# Why octets are no bencode value

A fault inside a list or a dictionary is reported inside one wrapper for each container around
it, the outermost first; a fault of a key is the fault of its dictionary's own text and has no
wrapper for that dictionary.

## Main definitions

* `DecodeError`: the faults
* `DecodeError.message`: the text that reports a fault
-/

namespace Swarm.Bencode

/-- Why octets do not start with a bencode value. -/
inductive DecodeError where
  /-- There is no octet. -/
  | emptyInput
  /-- No value starts with this octet. -/
  | unknownType (byte : UInt8)
  /-- What stands before the colon is no length, or there is no colon. -/
  | malformedString
  /-- Fewer octets follow than the length asks for. -/
  | truncatedString
  /-- An integer has no closing octet. -/
  | unterminatedInteger
  /-- An integer of several octets starts with a zero. -/
  | leadingZero
  /-- An integer starts with a minus sign and a zero. -/
  | negativeZero
  /-- The octets between the marks of an integer are no signed 64-bit decimal. -/
  | invalidDigits (body : Bytes)
  /-- A list has no closing octet. -/
  | unterminatedList
  /-- An item of a list has a fault. -/
  | listItem (fault : DecodeError)
  /-- The key of an entry does not start with a digit. -/
  | nonStringKey
  /-- A dictionary has no closing octet. -/
  | unterminatedDictionary
  /-- The value of an entry has a fault. -/
  | dictionaryValue (fault : DecodeError)
  /-- A list or dictionary opens inside too many others. -/
  | nestingTooDeep
  deriving DecidableEq

namespace DecodeError

/-- The fault inside all the wrappers. -/
def innermost : DecodeError → DecodeError
  | .listItem fault => fault.innermost
  | .dictionaryValue fault => fault.innermost
  | fault => fault

/-- The text that reports a fault. -/
def message : DecodeError → String
  | .emptyInput => "empty data"
  | .unknownType byte => "unknown type: " ++ Text.quotedChar (Char.ofNat byte.toNat)
  | .malformedString => "invalid string format: malformed length prefix"
  | .truncatedString => "string data too short"
  | .unterminatedInteger => "invalid integer format: no end marker"
  | .leadingZero => "invalid integer format: leading zeros"
  | .negativeZero => "invalid integer format: negative zero"
  | .invalidDigits body => "invalid integer: " ++ Text.quoted (Utf8.lossy body)
  | .unterminatedList => "invalid list format: no end marker"
  | .listItem fault => "error decoding list item: " ++ fault.message
  | .nonStringKey => "dictionary key is not a string"
  | .unterminatedDictionary => "invalid dictionary format: no end marker"
  | .dictionaryValue fault => "error decoding dictionary value: " ++ fault.message
  | .nestingTooDeep => "nesting too deep"

end DecodeError

end Swarm.Bencode
