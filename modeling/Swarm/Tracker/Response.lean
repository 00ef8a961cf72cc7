import Swarm.Bencode.Decode
import Swarm.Tracker.Peer

/-!
# Answers of a tracker

A tracker answers with a dictionary: either the reason it refuses, or when to ask again, some
counts, and the peers in compact form. A warning may come with an answer of the second kind.

## Main definitions

* `Response`: an answer that is no refusal
* `Response.ofValue`: what the entries of an answer say
* `Response.read`: what the octets of an answer say, and the warning that came with them
-/

namespace Swarm.Tracker

open Bencode (Value)

/-- An answer that is no refusal. -/
structure Response where
  /-- After how many seconds to ask again. -/
  interval : Int64
  /-- After how many seconds to ask again at the earliest. -/
  minInterval : Option Int64
  /-- How many peers have everything. -/
  complete : Option Int64
  /-- How many peers have not. -/
  incomplete : Option Int64
  /-- The peers, in the tracker's order. -/
  peers : List Peer
  deriving DecidableEq

namespace Response

/-- The integer stored under a key of a dictionary. -/
def intAt? (value : Value) (key : String) : Option Int64 :=
  (value.get? key).bind Value.asInt?

/-- The octets stored under a key of a dictionary. -/
def bytesAt? (value : Value) (key : String) : Option Bytes :=
  (value.get? key).bind Value.asBytes?

/-- What the dictionary of an answer says that is no refusal. -/
def ofValue (value : Value) : Except TrackerError Response :=
  match intAt? value "interval" with
  | none => .error .missingOrInvalidInterval
  | some interval =>
    match bytesAt? value "peers" with
    | none => .error .missingOrInvalidPeers
    | some peers =>
      (Peer.ofCompact peers).map fun peers =>
        { interval
          minInterval := intAt? value "min interval"
          complete := intAt? value "complete"
          incomplete := intAt? value "incomplete"
          peers }

/-- What the octets of an answer say, after the warning that came with them. -/
def read (body : Bytes) : Option Bytes × Except TrackerError Response :=
  match Bencode.decode body with
  | .error fault => (none, .error (.decode fault))
  | .ok (value, _) =>
    if value.asDict?.isNone then (none, .error .notADictionary)
    -- A refusal counts whatever else the answer holds.
    else match bytesAt? value "failure reason" with
      | some reason => (none, .error (.failure (Utf8.lossy reason)))
      | none => (bytesAt? value "warning message", ofValue value)

/-- The line that passes a tracker's warning on. -/
def warningText (warning : Bytes) : String :=
  "tracker warning: " ++ Utf8.lossy warning

end Response

end Swarm.Tracker
