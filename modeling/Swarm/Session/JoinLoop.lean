import Swarm.Session.Race

/-!
# Waiting for the first success

The attempts of a race run at once and complete in any order. Each that has completed is looked at
in its turn, while others go on running: a success ends the race, and gives up whatever still
runs; a fault is reported, and the race goes on. The race is lost once there is nothing left to
wait for.

## Main definitions

* `RaceState`: a race under way, or what it came to
* `RaceState.look`: what becomes of a race when a completed attempt is looked at
* `RaceState.Step`, `RaceState.Steps`: one step of a race, and any number of them
* `Ends`: what a race can come to if its attempts complete in a given order
-/

namespace Swarm.Session

open Wire (PeerError)

/-- A race under way, or what it came to. -/
inductive RaceState (Peer Won : Type) where
  /-- Some attempts run, some have completed in this order and were not looked at yet, and the
  faults of others have been reported. -/
  | waiting (running completed : List (Attempt Peer Won)) (reported : List PeerError)
  | ended (won : Option (Peer × Won)) (reported : List PeerError)

variable {Peer Won : Type}

namespace RaceState

/-- A race that starts: every attempt runs. -/
def start (entered : List (Attempt Peer Won)) : RaceState Peer Won :=
  .waiting entered [] []

/-- What becomes of a race when an attempt that has completed is looked at. -/
def look (attempt : Attempt Peer Won) (running completed : List (Attempt Peer Won))
    (reported : List PeerError) : RaceState Peer Won :=
  match attempt.outcome with
  | .ok won => .ended (some (attempt.peer, won)) reported
  | .error fault => .waiting running completed (reported ++ [fault])

/-- One step of a race, and the attempt that completes in it, if one does. -/
inductive Step : RaceState Peer Won → Option (Attempt Peer Won) → RaceState Peer Won → Prop
  /-- Any attempt that runs may be the next to complete. -/
  | completes (before after completed : List (Attempt Peer Won)) (reported : List PeerError)
    (attempt : Attempt Peer Won) :
    Step (.waiting (before ++ attempt :: after) completed reported) (some attempt)
      (.waiting (before ++ after) (completed ++ [attempt]) reported)
  /-- Of those that have completed the first is looked at. -/
  | looks (running completed : List (Attempt Peer Won)) (reported : List PeerError)
    (attempt : Attempt Peer Won) :
    Step (.waiting running (attempt :: completed) reported) none
      (look attempt running completed reported)
  /-- There is nothing left to wait for. -/
  | lost (reported : List PeerError) :
    Step (.waiting [] [] reported) none (.ended none reported)

/-- Any number of steps, and the attempts that complete in them, in order. -/
inductive Steps : RaceState Peer Won → List (Attempt Peer Won) → RaceState Peer Won → Prop
  | refl (state : RaceState Peer Won) : Steps state [] state
  | tail {first next last : RaceState Peer Won} {order : List (Attempt Peer Won)}
    {completes : Option (Attempt Peer Won)} (steps : Steps first order next)
    (step : Step next completes last) : Steps first (order ++ completes.toList) last

end RaceState

/-- What a race can come to, and what it reports, if its attempts complete in a given order. It may
be over before all of them have completed. -/
def Ends (entered order : List (Attempt Peer Won)) (won : Option (Peer × Won))
    (reported : List PeerError) : Prop :=
  ∃ early, early <+: order ∧ RaceState.Steps (.start entered) early (.ended won reported)

end Swarm.Session
