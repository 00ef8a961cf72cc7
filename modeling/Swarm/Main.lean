import Swarm.Command.Run
import Swarm.Wire.PeerId

/-!
# The program

Describes the torrent file it is given. The program has no way to the network of its own, so it
stops where it would ask the tracker.

## Main definitions

* `main`: the program
-/

namespace Swarm.Command

/-- Random octets. -/
def randomOctets (count : Nat) : IO Bytes :=
  (List.range count).mapM fun _ => UInt8.ofNat <$> IO.rand 0 255

/-- The content of the file of a path, if it can be read. -/
def readFile? (path : String) : IO (Option Bytes) := do
  try
    let content ← IO.FS.readBinFile path
    return some content.data.toList
  catch _ => return none

/-- Runs the program with its arguments: the number it ends with. -/
def start (arguments : List String) : IO UInt32 := do
  match Options.parse? arguments with
  | none => return usageCode
  | some options =>
    let file ← readFile? options.path
    let random ← randomOctets 12
    let run := run Network.down options file (Wire.PeerId.generate random 0)
    IO.print run.output
    return run.exitCode

end Swarm.Command

/-- The program. -/
def main (arguments : List String) : IO UInt32 :=
  Swarm.Command.start arguments
