import Swarm.Proofs.Tracker.Request
import Swarm.Tracker.Announce

/-!
# What announcing comes to

A torrent is announced by asking its tracker, whose address carries what is announced. Nothing is
asked where the torrent names no address that can be read; otherwise what the web gives for the
address is a fault, or a body that is read as an answer.

## Main definitions

* `Announces`: how announcing goes, over a web that gives something for every address

## Main results

* `announces_iff`: announcing goes in this way and in no other
* `fetch_of_ok`: what a tracker that is reached in the open and replies at once is asked and gives
-/

namespace Swarm.Tracker

open Torrent (Metainfo)
open Url (Address)

variable {web : Address → List String × Except TrackerError Bytes} {announced : Announced}

/-- **How announcing goes.** The tracker is asked at its own address with the request behind its
query, if it has an address, and the body that comes of that is read as its answer. -/
inductive Announces (web : Address → List String × Except TrackerError Bytes) (tracker : String)
    (request : Request) : Announced → Prop
  | unasked (fault : Url.ParseError) (h : Address.parse tracker = .error fault) :
    Announces web tracker request ⟨none, [], none, .error (.url fault)⟩
  | unanswered (address : Address) (requests : List String) (fault : TrackerError)
    (h : Address.parse tracker = .ok address)
    (hweb : web (request.asking address) = (requests, .error fault)) :
    Announces web tracker request ⟨some (request.asking address), requests, none, .error fault⟩
  | answered (address : Address) (requests : List String) (body : Bytes) (warning : Option Bytes)
    (result : Except TrackerError Response) (h : Address.parse tracker = .ok address)
    (hweb : web (request.asking address) = (requests, .ok body))
    (hread : Response.read body = (warning, result)) :
    Announces web tracker request ⟨some (request.asking address), requests, warning, result⟩

/-- **Announcing** tells the tracker which torrent it is, who asks, where that one listens and how
much it still needs. -/
theorem announces_iff {metainfo : Metainfo} {peerId : Octets 20} {port : UInt16} :
    Announces web metainfo.announce ⟨metainfo.infoHash, peerId, port, metainfo.totalLength⟩
        announced ↔
      announced = announceOver web metainfo peerId port := by
  let request : Request := ⟨metainfo.infoHash, peerId, port, metainfo.totalLength⟩
  have hrequest : announceRequest metainfo peerId port = request := rfl
  rw [announceOver, hrequest]
  constructor
  · intro h
    cases h with
    | unasked fault h => rw [Request.address, h]
    | unanswered address requests fault h hweb =>
      rw [request.address_of_parse h]
      simp only [request, hweb]
    | answered address requests body warning result h hweb hread =>
      rw [request.address_of_parse h]
      simp only [request, hweb, hread]
  · rintro rfl
    -- first whether there is an address, then what the web gives for it
    rcases h : Address.parse metainfo.announce with fault | address
    · rw [Request.address, h]
      exact .unasked fault h
    · rw [request.address_of_parse h]
      rcases hweb : web (request.asking address) with ⟨requests, fault | body⟩
      · simp only [hweb]
        exact .unanswered address requests fault h hweb
      · simp only [hweb]
        exact .answered address requests body _ _ h hweb rfl

/-- A tracker that is reached in the open and replies at once is asked once, for what the address
names there, and what it replies is the body. -/
theorem fetch_of_ok {address : Address} (h : address.scheme = "http") (body : Bytes) :
    fetch .up [⟨200, none, body⟩] address = (["GET " ++ address.requestTarget], .ok body) := by
  have hserver : isSameServer address address = true := by simp [isSameServer, h]
  have hredirect : Reply.redirect? ⟨200, none, body⟩ address = none := rfl
  have hcontent : Reply.content ⟨200, none, body⟩ = .ok body := rfl
  simp only [fetch, ask, hserver, Bool.not_true, Bool.false_eq_true, if_false, hredirect, hcontent]

end Swarm.Tracker
