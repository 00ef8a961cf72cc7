import Swarm.Session.Dial

/-!
# Racing peers

Several peers are dialled at once, each within a limit of time, and the first handshake that
comes back is kept. Attempts that fail before it are reported and passed over.

## Main definitions

* `Attempt`: a peer and what came of dialling it
* `attempts`: the attempts that a race starts
* `winner?`: the first success among attempts in the order they complete
* `failures`: the faults of the attempts that complete before it
* `race`: the attempts at peers of known behaviour, in the order they complete
-/

namespace Swarm.Session

open Wire (Connection Duration Handshake PeerError)

/-- A peer and what came of dialling it. -/
structure Attempt (Peer Won : Type) where
  peer : Peer
  outcome : Except PeerError Won

variable {Peer Won : Type}

namespace Attempt

/-- The same attempt with less or more of what was won. -/
def map {Kept : Type} (keep : Won → Kept) (attempt : Attempt Peer Won) : Attempt Peer Kept :=
  ⟨attempt.peer, attempt.outcome.map keep⟩

/-- What an attempt has won, and whose it is. -/
def won? (attempt : Attempt Peer Won) : Option (Peer × Won) :=
  match attempt.outcome with
  | .ok won => some (attempt.peer, won)
  | .error _ => none

/-- Whether an attempt took all the time it had. -/
def timedOut (attempt : Attempt Peer Won) : Bool :=
  match attempt.outcome with
  | .error (.timeout _) => true
  | _ => false

end Attempt

/-- The attempts that a race starts, one for each peer. -/
def attempts (peers : List (Peer × Contact)) (infoHash peerId : Octets 20) (limit : Duration) :
    List (Attempt Peer (Handshake × Connection)) :=
  peers.map fun (peer, contact) => ⟨peer, (contact.attempt infoHash peerId limit).outcome⟩

/-- The first success among attempts in the order they complete, and whose it is. -/
def winner? (completed : List (Attempt Peer Won)) : Option (Peer × Won) :=
  completed.findSome? Attempt.won?

/-- The faults of the attempts that complete before the first success. -/
def failures : List (Attempt Peer Won) → List PeerError
  | [] => []
  | attempt :: rest =>
    match attempt.outcome with
    | .ok _ => []
    | .error fault => fault :: failures rest

/-- The line that reports a failed attempt. -/
def failureText (fault : PeerError) : String :=
  "handshake failed: " ++ fault.message

/-- Dials peers of known behaviour at once. The attempts are given in the order they complete:
those that take all their time come last. -/
def race (link : Link) (peers : List (Peer × Behaviour)) (infoHash peerId : Octets 20)
    (limit : Duration) : List (Attempt Peer Handshake) :=
  let contacts := peers.map fun (peer, behaviour) => (peer, behaviour.contact link)
  let completed := (attempts contacts infoHash peerId limit).map (·.map Prod.fst)
  completed.filter (!·.timedOut) ++ completed.filter (·.timedOut)

end Swarm.Session
