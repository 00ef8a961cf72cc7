/-!
# Spans of time

A span of whole milliseconds is written in the largest of seconds and milliseconds that it fills,
with as many places after the point as it needs.

## Main definitions

* `Duration`: a span of time
* `Duration.text`: its text
-/

namespace Swarm.Wire

/-- A span of time, in milliseconds. -/
structure Duration where
  milliseconds : Nat
  deriving DecidableEq

namespace Duration

/-- A span of whole seconds. -/
def ofSeconds (seconds : Nat) : Duration :=
  ⟨seconds * 1000⟩

/-- Three digits after a point, without the zeros at their end; nothing if all are zero. -/
def fraction (thousandths : Nat) : String :=
  if thousandths = 0 then ""
  else if thousandths % 100 = 0 then s!".{thousandths / 100}"
  else if thousandths % 10 = 0 then s!".{thousandths / 100}{thousandths / 10 % 10}"
  else s!".{thousandths / 100}{thousandths / 10 % 10}{thousandths % 10}"

/-- The text of a span. -/
def text (span : Duration) : String :=
  let n := span.milliseconds
  if n = 0 then "0ns"
  else if n < 1000 then s!"{n}ms"
  else toString (n / 1000) ++ fraction (n % 1000) ++ "s"

end Duration

end Swarm.Wire
