import Swarm.Bytes.Octets
import Swarm.Tracker.Error
import Swarm.Url.Parse

/-!
# Asking a tracker

A client asks a tracker by an address: the tracker's own, with pairs behind its query that tell
the torrent, the client and how much it still needs. The two digests are written with every
octet encoded, and set as the query behind what the tracker's address has; the other pairs are put
behind it one by one.

## Main definitions

* `Request`: what a client tells a tracker
* `Request.digestPairs`, `Request.countPairs`: the pairs that tell it
* `Request.address`: the address that asks
-/

namespace Swarm.Tracker

/-- What a client tells a tracker. -/
structure Request where
  /-- The digest that names the torrent. -/
  infoHash : Octets 20
  /-- The id of the client. -/
  peerId : Octets 20
  /-- Where the client listens. -/
  port : UInt16
  /-- How many octets the client still needs. -/
  left : Int64
  deriving DecidableEq

namespace Request

/-- Octets, each encoded by a percent sign and two digits in lower case. -/
def escaped (data : Bytes) : String :=
  String.ofList (data.flatMap fun byte => '%' :: Hex.lower byte)

/-- The pairs that tell the torrent and the client, as they stand in a query. -/
def digestPairs (request : Request) : String :=
  "info_hash=" ++ escaped request.infoHash.data ++ "&peer_id=" ++ escaped request.peerId.data

/-- The pairs that tell where the client listens and what it has sent, received and still needs;
a download that has not started has sent and received nothing. -/
def countPairs (request : Request) : List (String × String) :=
  [("port", toString request.port.toNat), ("uploaded", toString 0), ("downloaded", toString 0),
    ("compact", toString 1), ("left", toString request.left.toInt)]

/-- The pairs that tell the torrent and the client behind a query, if there is one that is not
empty. -/
def queryFrom (request : Request) (existing : Option String) : String :=
  match existing with
  | some query => if query = "" then request.digestPairs else query ++ "&" ++ request.digestPairs
  | none => request.digestPairs

/-- The address that asks the tracker of an address. -/
def address (request : Request) (announce : String) : Except TrackerError Url.Address :=
  match Url.Address.parse announce with
  | .ok address =>
    .ok ((address.setQuery (request.queryFrom address.query)).appendPairs request.countPairs)
  | .error fault => .error (.url fault)

end Request

end Swarm.Tracker
