import Swarm.Wire.Exchange

/-!
# Dialling a peer

A peer is dialled by opening a connection and exchanging handshakes. There is a limit of time for
that, and one more for an attempt among others; whichever ends first gives the attempt up. What
comes of it depends on the way to the peer and on what the peer does.

## Main definitions

* `Timed`: what something under way comes to, and when
* `Timed.within`: the same within a limit of time
* `Contact`: how reaching for a peer turns out
* `Contact.connect`, `Contact.attempt`: a connection over which handshakes have been exchanged
* `Link`, `Behaviour`: whether there is a way to the peers, and what a peer does
* `dial`: what comes of dialling a peer
-/

namespace Swarm.Session

open Wire (Connection Duration Handshake PeerError)

/-! ## Limits of time -/

/-- Something under way: what it comes to, and after how long, if it ever ends. -/
structure Timed (α : Type) where
  outcome : Except PeerError α
  takes : Option Duration

namespace Timed

variable {α : Type}

/-- Something that was given up when its time was over. -/
def expired (limit : Duration) : Timed α :=
  ⟨.error (.timeout limit), some limit⟩

/-- Waits no longer than a limit of time. -/
def within (timed : Timed α) (limit : Duration) : Timed α :=
  match timed.takes with
  | some span => if span.milliseconds ≤ limit.milliseconds then timed else expired limit
  | none => expired limit

end Timed

/-! ## Reaching for a peer -/

/-- How long opening a connection and exchanging handshakes may take at most. -/
def connectLimit : Duration :=
  .ofSeconds 3

/-- How reaching for a peer turns out. -/
structure Contact where
  /-- The connection that is opened, or why there is none. -/
  opened : Except Stream.Fault Connection
  /-- How long opening it and exchanging handshakes take, if they ever end. -/
  takes : Option Duration

namespace Contact

/-- Opens a connection and exchanges handshakes over it. -/
def exchange (contact : Contact) (infoHash peerId : Octets 20) :
    Timed (Handshake × Connection) where
  outcome :=
    match contact.opened with
    | .error fault => .error (.transfer fault)
    | .ok connection =>
      match connection.handshake infoHash peerId with
      | (.ok theirs, rest) => .ok (theirs, rest)
      -- The connection is closed with the fault.
      | (.error fault, _) => .error fault
  takes := contact.takes

/-- Opens a connection and exchanges handshakes, within the time there is for both. -/
def connect (contact : Contact) (infoHash peerId : Octets 20) : Timed (Handshake × Connection) :=
  (contact.exchange infoHash peerId).within connectLimit

/-- The same as one attempt among others, each of which has a limit of time of its own. -/
def attempt (contact : Contact) (infoHash peerId : Octets 20) (limit : Duration) :
    Timed (Handshake × Connection) :=
  (contact.connect infoHash peerId).within limit

end Contact

/-! ## Peers of known behaviour -/

/-- Whether there is a way to the peers. -/
inductive Link where
  | up
  | down
  deriving DecidableEq

/-- What a peer does when it is dialled. -/
inductive Behaviour where
  /-- Nobody listens. -/
  | refuses
  /-- The peer reads a handshake and says nothing. -/
  | silent
  /-- The peer reads a handshake and sends some octets; then it waits or closes the
  connection. -/
  | sends (octets : Bytes) (closes : Bool)

/-- A connection to a peer that sends some octets and reads what it is sent. -/
def openConnection (octets : Bytes) : Connection where
  source := ⟨octets, octets.length + 1, by omega⟩
  sink := ⟨[], 64 * 1024, 64 * 1024, by decide⟩

/-- Whether some octets end before the handshake that they begin with. -/
def isCutShort (octets : Bytes) : Bool :=
  match (Handshake.read (openConnection octets).source).1 with
  | .error (.transfer _) => true
  | _ => false

/-- How reaching for a peer of known behaviour turns out. What a peer does it does at once, and a
peer that waits never lets its octets end. -/
def Behaviour.contact (behaviour : Behaviour) (link : Link) : Contact :=
  match link, behaviour with
  | .down, _ => ⟨.error .networkUnreachable, some ⟨0⟩⟩
  | .up, .refuses => ⟨.error .connectionRefused, some ⟨0⟩⟩
  | .up, .silent => ⟨.ok (openConnection []), none⟩
  | .up, .sends octets closes =>
    ⟨.ok (openConnection octets), if isCutShort octets && !closes then none else some ⟨0⟩⟩

/-- What comes of dialling a peer. -/
structure Dialled where
  outcome : Except PeerError Handshake
  /-- What the peer has read. -/
  sent : Option Bytes

/-- Dials a peer. -/
def dial (link : Link) (behaviour : Behaviour) (infoHash peerId : Octets 20) (limit : Duration) :
    Dialled where
  outcome := ((behaviour.contact link).attempt infoHash peerId limit).outcome.map Prod.fst
  sent :=
    match link, behaviour with
    | .up, .silent | .up, .sends _ _ => some (Handshake.standard infoHash peerId).encode
    | _, _ => none

end Swarm.Session
