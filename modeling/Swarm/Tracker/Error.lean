import Swarm.Bencode.Error
import Swarm.Url.Error

/-!
# Why asking a tracker fails

## Main definitions

* `TrackerError`: the faults
* `TrackerError.message?`: the text that reports a fault
-/

namespace Swarm.Tracker

/-- Why asking a tracker fails. -/
inductive TrackerError where
  /-- The request was not answered, or answered with the status of an error. -/
  | http
  /-- The tracker's address is none. -/
  | url (fault : Url.ParseError)
  /-- The answer does not start with a bencode value. -/
  | decode (fault : Bencode.DecodeError)
  /-- The answer is no dictionary. -/
  | notADictionary
  /-- The tracker gives a reason to refuse, whose text this is. -/
  | failure (reason : String)
  /-- The answer says not when to ask again. -/
  | missingOrInvalidInterval
  /-- The answer has no string of peers. -/
  | missingOrInvalidPeers
  /-- The string of peers is not a whole number of peers. -/
  | invalidPeerListLength (length : Nat)
  deriving DecidableEq

/-- The text that reports a fault; a failed transfer is reported by the transport. -/
def TrackerError.message? : TrackerError → Option String
  | .http => none
  | .url fault => some ("invalid announce URL: " ++ fault.message)
  | .decode fault => some ("failed to decode tracker response: " ++ fault.message)
  | .notADictionary => some "tracker response is not a dictionary"
  | .failure reason => some ("tracker returned failure: " ++ reason)
  | .missingOrInvalidInterval => some "missing or invalid interval"
  | .missingOrInvalidPeers => some "missing or invalid peers"
  | .invalidPeerListLength length => some s!"peer list length {length} is not a multiple of 6"

end Swarm.Tracker
