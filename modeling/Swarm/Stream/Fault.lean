/-!
# Why a transfer fails

## Main definitions

* `Fault`: the faults of reading from, writing to and opening a connection
* `Fault.message`: the text that reports a fault
-/

namespace Swarm.Stream

/-- Why a transfer of octets fails. -/
inductive Fault where
  /-- The octets ended inside a number. -/
  | unexpectedEnd
  /-- The octets ended inside a block. -/
  | earlyEnd
  /-- The other side takes no more octets. -/
  | writeZero
  /-- Nobody listens at the address. -/
  | connectionRefused
  /-- There is no way to the address. -/
  | networkUnreachable
  deriving DecidableEq

/-- The text that reports a fault. -/
def Fault.message : Fault → String
  | .unexpectedEnd => "unexpected end of file"
  | .earlyEnd => "early eof"
  | .writeZero => "write zero"
  | .connectionRefused => "Connection refused (os error 111)"
  | .networkUnreachable => "Network is unreachable (os error 101)"

end Swarm.Stream
