import Swarm.Command.Arguments
import Swarm.Command.Report
import Swarm.Session.Race
import Swarm.Tracker.Announce

/-!
# A run of the program

The program describes a torrent, announces it, lists the peers it was told and dials the first of
them. A run is the list of what it prints and does, in order, and whether it succeeds; what comes
back from the network is given.

## Main definitions

* `Event`: what the program does
* `Network`: what comes back from the network
* `run`: a run of the program
-/

namespace Swarm.Command

open Session (Attempt)
open Torrent (Metainfo)
open Tracker (Peer TrackerError)
open Wire (Duration Handshake)

/-- What the program does. -/
inductive Event where
  /-- It prints a line. -/
  | print (line : String)
  /-- It announces by asking at an address. -/
  | announce (address : Url.Address)
  /-- It dials peers at once, each within a limit of time. -/
  | dial (peers : List Peer) (infoHash peerId : Octets 20) (limit : Duration)
  deriving DecidableEq

/-- What comes back from the network: what asking at an address comes to, and the attempts at peers
in the order they complete. -/
structure Network where
  web : Url.Address → List String × Except TrackerError Bytes
  attempts : List Peer → Octets 20 → Octets 20 → Duration → List (Attempt Peer Handshake)

/-- What the program does in a run, and whether it succeeds. -/
structure Run where
  events : List Event
  succeeds : Bool

namespace Run

/-- The same run after further events. -/
def after (events : List Event) (run : Run) : Run :=
  { run with events := events ++ run.events }

/-- The line that an event prints. -/
def lineOf : Event → Option String
  | .print line => some line
  | _ => none

/-- What a run prints, line by line. -/
def lines (run : Run) : List String :=
  run.events.filterMap lineOf

/-- The text that a run prints. -/
def output (run : Run) : String :=
  String.join (run.lines.map (· ++ "\n"))

/-- The number that a run ends with. -/
def exitCode (run : Run) : UInt32 :=
  if run.succeeds then 0 else 1

end Run

/-- The lines that tell the peers that are dialled, and how many are not. -/
def peerLines (peers : List Peer) (maxPeers : Nat) : List String :=
  s!"Found {peers.length} peers:" ::
    ((peers.take maxPeers).map fun peer => "  " ++ peer.text) ++
    if maxPeers < peers.length then [s!"... and {peers.length - maxPeers} more"] else []

/-- The lines that tell the peer whose handshake came first. -/
def winnerLines (peer : Peer) (handshake : Handshake) : List String :=
  let named : List (Wire.Extension × String) :=
    [(.dht, "DHT"), (.extensionProtocol, "Extension Protocol"), (.fast, "Fast Extension")]
  ["\nSuccessfully connected to peer: " ++ peer.text,
    "Remote peer ID: " ++ handshake.peerId.hex] ++
  (named.filter fun (extension, _) => handshake.flags.has extension).map fun (_, name) =>
    "Peer supports " ++ name

/-- The run from the attempts at the peers on. -/
def finish (attempts : List (Attempt Peer Handshake)) : Run :=
  match Session.winner? attempts with
  | some (peer, handshake) => ⟨(winnerLines peer handshake).map .print, true⟩
  | none => ⟨[.print "\nFailed to handshake with any peers"], false⟩

/-- The run from the peers that the tracker told on. -/
def dialPeers (network : Network) (options : Options) (metainfo : Metainfo) (peerId : Octets 20)
    (peers : List Peer) : Run :=
  let candidates := peers.take options.maxPeers
  let limit := Duration.ofSeconds options.timeout
  let infoHash := metainfo.infoHash
  let lines := peerLines peers options.maxPeers ++ ["\nAttempting handshakes with peers..."]
  (finish (network.attempts candidates infoHash peerId limit)).after
    (lines.map .print ++ [.dial candidates infoHash peerId limit])

/-- The run from a torrent on. -/
def runTorrent (network : Network) (options : Options) (metainfo : Metainfo)
    (peerId : Octets 20) : Run :=
  let announced := Tracker.announceOver network.web metainfo peerId options.port
  let events := (report metainfo ++ ["\nDiscovering peers..."]).map Event.print ++
    announced.asked.toList.map .announce
  match announced.result with
  | .error _ => ⟨events, false⟩
  | .ok response => (dialPeers network options metainfo peerId response.peers).after events

/-- A run of the program on the content of the torrent file, if there is such a file. -/
def run (network : Network) (options : Options) (file : Option Bytes) (peerId : Octets 20) : Run :=
  match Metainfo.ofFile file with
  | .error _ => ⟨[], false⟩
  | .ok metainfo => runTorrent network options metainfo peerId

/-- The network of a host without any way to others. -/
def Network.down : Network where
  web := Tracker.fetch .down []
  attempts peers infoHash peerId limit :=
    Session.race .down (peers.map fun peer => (peer, .silent)) infoHash peerId limit

/-- The number that a run with arguments out of order ends with. -/
def usageCode : UInt32 := 2

/-- A run with its arguments: the number it ends with and the text it prints. The content of the
file of a path is given. -/
def execute (network : Network) (files : String → Option Bytes) (peerId : Octets 20)
    (arguments : List String) : UInt32 × String :=
  match Options.parse? arguments with
  | none => (usageCode, "")
  | some options =>
    let run := run network options (files options.path) peerId
    (run.exitCode, run.output)

end Swarm.Command
