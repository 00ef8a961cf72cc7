import Swarm.Bytes.Octets

/-!
# Extension flags

A handshake reserves eight octets for flags, each of which announces an extension of the
protocol. Three extensions are known, each by an identifier and by the place of its flag.

## Main definitions

* `Extension`: the extensions
* `Extension.id`, `Extension.ofId?`: the identifier of an extension, and its inverse
* `Extension.byteIndex`, `Extension.mask`: the place of its flag
* `Flags.set`, `Flags.has`: announcing an extension, and asking whether it is announced
-/

namespace Swarm.Wire

/-- An extension of the protocol. -/
inductive Extension where
  /-- The distributed table of peers. -/
  | dht
  /-- The protocol by which extensions are negotiated. -/
  | extensionProtocol
  /-- The fast extension. -/
  | fast
  deriving DecidableEq

namespace Extension

/-- The identifier of an extension. -/
def id : Extension → UInt8
  | .dht => 0
  | .extensionProtocol => 5
  | .fast => 7

/-- The extension that has an identifier. -/
def ofId? (id : UInt8) : Option Extension :=
  if id = 0 then some .dht
  else if id = 5 then some .extensionProtocol
  else if id = 7 then some .fast
  else none

/-- Which reserved octet holds the flag of an extension. -/
def byteIndex : Extension → Nat
  | .dht => 7
  | .extensionProtocol => 5
  | .fast => 7

/-- The bit of the flag in its octet. -/
def mask : Extension → UInt8
  | .dht => 0x01
  | .extensionProtocol => 0x20
  | .fast => 0x80

/-- The extension of an extension's identifier is that extension. -/
@[simp] theorem ofId?_id (extension : Extension) : ofId? extension.id = some extension := by
  cases extension <;> rfl

end Extension

/-- The reserved octets of a handshake. -/
abbrev Flags := Octets 8

namespace Flags

/-- No extension is announced. -/
def none : Flags :=
  Octets.zero 8

/-- Announces an extension; all other bits stay as they are. -/
def set (flags : Flags) (extension : Extension) : Flags :=
  flags.modify extension.byteIndex (· ||| extension.mask)

/-- Whether an extension is announced. -/
def has (flags : Flags) (extension : Extension) : Bool :=
  flags.get extension.byteIndex &&& extension.mask != 0

/-- Announces the extension that has an identifier; an unknown identifier changes nothing. -/
def setId (flags : Flags) (id : UInt8) : Flags :=
  match Extension.ofId? id with
  | some extension => flags.set extension
  | .none => flags

/-- Whether the extension that has an identifier is announced; an unknown one never is. -/
def hasId (flags : Flags) (id : UInt8) : Bool :=
  match Extension.ofId? id with
  | some extension => flags.has extension
  | .none => false

end Flags

end Swarm.Wire
