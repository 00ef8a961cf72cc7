import Swarm.Session.Dial
import Swarm.Torrent.Metainfo
import Swarm.Tracker.Request
import Swarm.Tracker.Response

/-!
# Announcing to a tracker

A client announces a torrent by asking its tracker over the web. The tracker's replies can send
the client on to another address, at most ten times.

## Main definitions

* `Reply`: a reply of a web server
* `fetch`: the requests that are made of an address, and the body that comes of them
* `announceRequest`: what a client tells the tracker of a torrent
* `announceOver`: what a client asks, and what it is told, over any web
* `announce`: what a tracker of known replies tells a client
-/

namespace Swarm.Tracker

open Session (Link)
open Torrent (Metainfo)

/-- A reply of a web server. -/
structure Reply where
  status : Nat
  /-- Where the reply sends the client. -/
  location : Option String
  body : Bytes

namespace Reply

/-- Where a reply sends the client that asked at an address. -/
def redirect? (reply : Reply) (address : Url.Address) : Option Url.Address :=
  if [301, 302, 303, 307, 308].contains reply.status then
    reply.location.bind fun location => (address.join location).toOption
  else none

/-- The body of a reply: some have none, and one with the status of an error is none. -/
def content (reply : Reply) : Except TrackerError Bytes :=
  if 400 ≤ reply.status ∧ reply.status < 600 then .error .http
  else if reply.status = 204 ∨ reply.status = 304 then .ok []
  else .ok reply.body

end Reply

/-- How many times a client follows replies that send it on. -/
def maxRedirects : Nat := 10

/-- Whether two addresses are of one server, reached in the open. -/
def isSameServer (a b : Url.Address) : Bool :=
  b.scheme == "http" && a.host == b.host && a.port == b.port

/-- Asks at an address of the server of `origin`, which gives its replies in turn; the client can
be sent on `redirects` more times. Gives the requests that the server receives, and the body that
comes of the last. -/
def ask (origin : Url.Address) (redirects : Nat) (address : Url.Address) :
    List Reply → List String × Except TrackerError Bytes
  | [] => ([], .error .http)
  | reply :: rest =>
    -- Nobody answers at another server.
    if !isSameServer origin address then ([], .error .http)
    else
      let request := "GET " ++ address.requestTarget
      match reply.redirect? address with
      | none => ([request], reply.content)
      | some next =>
        match redirects with
        | 0 => ([request], .error .http)
        | redirects + 1 =>
          let (requests, body) := ask origin redirects next rest
          (request :: requests, body)

/-- The requests that are made of an address, and the body that comes of them. -/
def fetch (link : Link) (replies : List Reply) (address : Url.Address) :
    List String × Except TrackerError Bytes :=
  match link with
  | .down => ([], .error .http)
  | .up => ask address maxRedirects address replies

/-- What a client that listens at a port tells the tracker of a torrent. -/
def announceRequest (metainfo : Metainfo) (peerId : Octets 20) (port : UInt16) : Request where
  infoHash := metainfo.infoHash
  peerId := peerId
  port := port
  left := metainfo.totalLength

/-- What comes of announcing: the address that is asked, if there is one, the requests that servers
receive, the warning in the answer, and the answer. -/
structure Announced where
  asked : Option Url.Address
  requests : List String
  warning : Option Bytes
  result : Except TrackerError Response

/-- Announces a torrent to its tracker. Asking at an address comes to what the web gives for it. -/
def announceOver (web : Url.Address → List String × Except TrackerError Bytes)
    (metainfo : Metainfo) (peerId : Octets 20) (port : UInt16) : Announced :=
  match (announceRequest metainfo peerId port).address metainfo.announce with
  | .error fault => ⟨none, [], none, .error fault⟩
  | .ok address =>
    match web address with
    | (requests, .error fault) => ⟨some address, requests, none, .error fault⟩
    | (requests, .ok body) =>
      let (warning, result) := Response.read body
      ⟨some address, requests, warning, result⟩

/-- Announces a torrent to a tracker that gives its replies in turn. -/
def announce (link : Link) (replies : List Reply) (metainfo : Metainfo) (peerId : Octets 20)
    (port : UInt16) : Announced :=
  announceOver (fetch link replies) metainfo peerId port

end Swarm.Tracker
