import Swarm.Command.Run
import Swarm.Proofs.Session.Race
import Swarm.Proofs.Tracker.Announce
import Swarm.Proofs.Tracker.Peer

/-!
# The course of a run

A run stops where there is no torrent, and where announcing it does not tell any peers. Else it
lists as many of the peers as it may dial, and the number of those it leaves out, if there are any.
It dials the peers that it has listed and no others, for the torrent it has announced and under the
same id, and it succeeds just if one of the attempts does. Then it names the peer whose attempt is
the first to succeed in the order in which they complete, whatever this order is.

## Main definitions

* `Surroundings`, `Surroundings.network`: the web, the peers and the order in which attempts at them
  complete, and what comes back from a network of these
* `Listing`: how peers are listed
* `Conclusion`: how a run ends

## Main results

* `Surroundings.exists_network_eq_down`: a network without any way to others is one of these
* `Surroundings.isSome_winner?_iff`: when someone wins the race at some peers
* `listing_peerLines`, `exists_finish_eq`: what is listed, and how a run ends
* `Conclusion.mem_iff`: which peer a run says it is connected to
* `run_dials_listed_peers`: what a run prints, asks and dials, in order, and whether it succeeds
-/

namespace Swarm.Command

open Session (Attempt Contact Ends winner?)
open Torrent (Metainfo)
open Tracker (Announces Peer TrackerError)
open Wire (Connection Duration Handshake)

/-! ## Networks -/

/-- **What surrounds a host**: what asking at an address of the web comes to, how reaching for each
of the peers that are dialled turns out, and the order in which the attempts at them complete. -/
structure Surroundings where
  web : Url.Address → List String × Except TrackerError Bytes
  /-- How reaching for a peer turns out, by its place among those dialled, as a peer may be told
  more than once, and by the torrent and the id that it is sent. -/
  contact : Nat → Peer → Octets 20 → Octets 20 → Contact
  complete : List (Attempt Peer (Handshake × Connection)) →
    List (Attempt Peer (Handshake × Connection))
  complete_perm : ∀ entered, (complete entered).Perm entered

namespace Surroundings

variable (surroundings : Surroundings) (peers : List Peer) (infoHash peerId : Octets 20)
  (limit : Duration)

/-- Some peers, each with how reaching for it turns out. -/
def contacts : List (Peer × Contact) :=
  peers.mapIdx fun place peer => (peer, surroundings.contact place peer infoHash peerId)

/-- The attempts at some peers, one for each. -/
def entered : List (Attempt Peer (Handshake × Connection)) :=
  Session.attempts (surroundings.contacts peers infoHash peerId) infoHash peerId limit

/-- The attempts at some peers in the order in which they complete. -/
def completed : List (Attempt Peer (Handshake × Connection)) :=
  surroundings.complete (surroundings.entered peers infoHash peerId limit)

/-- What comes back from a network of these. -/
def network : Network where
  web := surroundings.web
  attempts peers infoHash peerId limit :=
    (surroundings.completed peers infoHash peerId limit).map (·.map Prod.fst)

theorem completed_perm : (surroundings.completed peers infoHash peerId limit).Perm
    (surroundings.entered peers infoHash peerId limit) :=
  surroundings.complete_perm _

/-- A network without any way to others is one of these. -/
theorem exists_network_eq_down : ∃ surroundings : Surroundings, surroundings.network = .down := by
  let contact : Contact := Session.Behaviour.silent.contact .down
  refine ⟨⟨Network.down.web, fun _ _ _ _ => contact, Session.timedOutLast,
    Session.timedOutLast_perm⟩, ?_⟩
  -- every peer is reached for in the same way, whatever its place
  have hcontacts (peers : List Peer) :
      peers.mapIdx (fun _ peer => (peer, contact)) = peers.map fun peer => (peer, contact) := by
    apply List.ext_getElem?
    intro place
    rw [List.getElem?_mapIdx, List.getElem?_map]
  simp only [network, Network.down, completed, entered, contacts, hcontacts, Session.race_eq,
    List.map_map, Function.comp_def, contact]

/-- The peers that are reached for are those of the list, in order. -/
theorem map_fst_contacts :
    (surroundings.contacts peers infoHash peerId).map Prod.fst = peers := by
  apply List.ext_getElem?
  intro place
  rw [List.getElem?_map, contacts, List.getElem?_mapIdx]
  cases peers[place]? <;> rfl

theorem mem_contacts_iff {peer : Peer} {contact : Contact} :
    (peer, contact) ∈ surroundings.contacts peers infoHash peerId ↔ ∃ place,
      peers[place]? = some peer ∧ contact = surroundings.contact place peer infoHash peerId := by
  rw [contacts, List.mem_mapIdx]
  constructor
  · rintro ⟨place, hplace, h⟩
    obtain ⟨rfl, rfl⟩ := Prod.mk.inj h
    exact ⟨place, List.getElem?_eq_getElem hplace, rfl⟩
  · rintro ⟨place, hpeer, rfl⟩
    obtain ⟨hplace, rfl⟩ := List.getElem?_eq_some_iff.mp hpeer
    exact ⟨place, hplace, rfl⟩

/-- The attempts are at the peers of the list, in order. -/
theorem map_peer_entered :
    (surroundings.entered peers infoHash peerId limit).map Attempt.peer = peers := by
  rw [entered, Session.map_peer_attempts, map_fst_contacts]

/-- **Someone wins the race** at some peers just if the attempt at one of them completes with a
handshake. -/
theorem isSome_winner?_iff :
    (winner? (surroundings.completed peers infoHash peerId limit)).isSome = true ↔
      ∃ place peer theirs, peers[place]? = some peer ∧
        (surroundings.contact place peer infoHash peerId).Completes infoHash limit theirs := by
  rw [Session.isSome_winner?_iff_completes (surroundings.completed_perm ..)]
  simp only [mem_contacts_iff]
  constructor
  · rintro ⟨peer, _, theirs, ⟨place, hpeer, rfl⟩, hcompletes⟩
    exact ⟨place, peer, theirs, hpeer, hcompletes⟩
  · rintro ⟨place, peer, theirs, hpeer, hcompletes⟩
    exact ⟨peer, _, theirs, ⟨place, hpeer, rfl⟩, hcompletes⟩

end Surroundings

/-! ## What is listed -/

/-- The line for the peers that are left out of the first few, if there are any. -/
inductive Remainder (total most : Nat) : List String → Prop
  | none (h : total ≤ most) : Remainder total most []
  | more (count : Nat) (hcount : 0 < count) (h : total = most + count) :
    Remainder total most [s!"... and {count} more"]

/-- **How peers are listed**: how many there are, then the first of them in order, as many as may be
shown, each with the four numbers of its address and that of its port, then how many are left. -/
structure Listing (peers : List Peer) (most : Nat) (shown : List Peer) (lines : List String) :
    Prop where
  begins : shown <+: peers
  length_eq : shown.length = min peers.length most
  lines_eq : ∃ rest, Remainder peers.length most rest ∧
    lines = s!"Found {peers.length} peers:" :: (shown.map fun ⟨a, b, c, d, port⟩ =>
      s!"  {a.toNat}.{b.toNat}.{c.toNat}.{d.toNat}:{port.toNat}") ++ rest

theorem listing_peerLines (peers : List Peer) (most : Nat) :
    Listing peers most (peers.take most) (peerLines peers most) := by
  let rest := if most < peers.length then [s!"... and {peers.length - most} more"] else []
  refine ⟨List.take_prefix most peers, ?_, rest, ?_, ?_⟩
  · rw [List.length_take, Nat.min_comm]
  · simp only [rest]
    split
    next hmore =>
      have hcount : peers.length = most + (peers.length - most) := by omega
      exact .more _ (Nat.sub_pos_of_lt hmore) hcount
    next hmore => exact .none (Nat.le_of_not_lt hmore)
  · have hlines : ((peers.take most).map fun peer => "  " ++ peer.text) =
        (peers.take most).map fun ⟨a, b, c, d, port⟩ =>
          s!"  {a.toNat}.{b.toNat}.{c.toNat}.{d.toNat}:{port.toNat}" :=
      List.map_congr_left fun _ _ => Peer.append_text ..
    rw [← hlines]
    rfl

/-! ## How a run ends -/

/-- The name of an extension, for a reader. -/
def extensionName : Wire.Extension → String
  | .dht => "DHT"
  | .extensionProtocol => "Extension Protocol"
  | .fast => "Fast Extension"

/-- The line for an extension that a peer supports. -/
def supportLine (extension : Wire.Extension) : String :=
  "Peer supports " ++ extensionName extension

theorem supportLine_injective : Function.Injective supportLine := by
  intro a b h
  have hname : extensionName a = extensionName b := (String.append_right_inj _).mp h
  cases a <;> cases b <;> first | rfl | exact absurd hname (by decide)

/-- The lines for the extensions of a peer: one for each that it supports, in this order. -/
structure Supports (theirs : Handshake) (lines : List String) : Prop where
  sublist : lines.Sublist
    ["Peer supports DHT", "Peer supports Extension Protocol", "Peer supports Fast Extension"]
  mem_iff : ∀ extension, supportLine extension ∈ lines ↔ theirs.flags.has extension = true

/-- No line for an extension begins as that for a peer that has won. -/
theorem Supports.take_ne {theirs : Handshake} {lines : List String} (h : Supports theirs lines) :
    ∀ line ∈ lines, line.toList.take 2 ≠ ['\n', 'S'] := by
  have hall : ∀ line ∈ ["Peer supports DHT", "Peer supports Extension Protocol",
      "Peer supports Fast Extension"], line.toList.take 2 ≠ ['\n', 'S'] := by decide
  exact fun line hline => hall line (h.sublist.subset hline)

/-- The line for a peer that has won is none of some that begin in another way. -/
theorem connected_notMem (peer : Peer) {lines : List String}
    (h : ∀ line ∈ lines, line.toList.take 2 ≠ ['\n', 'S']) :
    "\nSuccessfully connected to peer: " ++ peer.text ∉ lines := by
  intro hmem
  apply h _ hmem
  rw [String.toList_append]
  rfl

/-- **How a run ends** that has raced some peers: it names the peer that has won by the four numbers
of its address and that of its port, if there is one, and succeeds just then. -/
inductive Conclusion : Option (Peer × Handshake × Connection) → List String → UInt32 → Prop
  | won (a b c d : UInt8) (port : UInt16) (theirs : Handshake) (connection : Connection)
    (extensions : List String) (h : Supports theirs extensions) :
    Conclusion (some (⟨a, b, c, d, port⟩, theirs, connection))
      (s!"\nSuccessfully connected to peer: {a.toNat}.{b.toNat}.{c.toNat}.{d.toNat}:{port.toNat}" ::
        ("Remote peer ID: " ++ theirs.peerId.hex) :: extensions) 0
  | lost : Conclusion none ["\nFailed to handshake with any peers"] 1

theorem exists_winnerLines_eq (peer : Peer) (theirs : Handshake) :
    ∃ extensions, Supports theirs extensions ∧ winnerLines peer theirs =
      ("\nSuccessfully connected to peer: " ++ peer.text) ::
        ("Remote peer ID: " ++ theirs.peerId.hex) :: extensions := by
  let all : List Wire.Extension := [.dht, .extensionProtocol, .fast]
  refine ⟨(all.filter theirs.flags.has).map supportLine, ⟨?_, ?_⟩, ?_⟩
  · exact List.filter_sublist.map _
  · intro extension
    have hall : extension ∈ all := by cases extension <;> decide
    rw [List.mem_map_of_injective supportLine_injective, List.mem_filter, and_iff_right hall]
  · -- the table the lines are made from is that of the names
    have hnamed : all.map (fun extension => (extension, extensionName extension)) =
        [(.dht, "DHT"), (.extensionProtocol, "Extension Protocol"), (.fast, "Fast Extension")] :=
      rfl
    simp only [winnerLines, ← hnamed, List.filter_map, List.map_map, Function.comp_def]
    rfl

/-- A run that has raced some peers ends with the first success among the attempts. -/
theorem exists_finish_eq (completed : List (Attempt Peer (Handshake × Connection))) :
    ∃ ending, (finish (completed.map (·.map Prod.fst))).events = ending.map .print ∧
      Conclusion (winner? completed) ending (finish (completed.map (·.map Prod.fst))).exitCode := by
  simp only [finish, Session.winner?_map]
  rcases winner? completed with _ | ⟨⟨a, b, c, d, port⟩, theirs, connection⟩
  · exact ⟨_, rfl, .lost⟩
  · obtain ⟨extensions, hsupports, hlines⟩ := exists_winnerLines_eq ⟨a, b, c, d, port⟩ theirs
    refine ⟨_, rfl, ?_⟩
    show Conclusion _ (winnerLines ⟨a, b, c, d, port⟩ theirs) 0
    rw [hlines, Peer.append_text]
    exact .won a b c d port theirs connection extensions hsupports

namespace Conclusion

variable {won : Option (Peer × Handshake × Connection)} {ending : List String} {code : UInt32}

/-- A run that has raced some peers succeeds just if one of them has won. -/
theorem code_eq_zero_iff (h : Conclusion won ending code) :
    code = 0 ↔ won.isSome = true := by
  cases h with
  | won => exact ⟨fun _ => rfl, fun _ => rfl⟩
  | lost => exact ⟨fun h => absurd h (by decide), fun h => absurd h (by decide)⟩

/-- **A run says it is connected to a peer** just if that peer has won. -/
theorem mem_iff (h : Conclusion won ending code) {peer : Peer} :
    "\nSuccessfully connected to peer: " ++ peer.text ∈ ending ↔
      ∃ theirs connection, won = some (peer, theirs, connection) := by
  -- the peer's own line is told from that of another by its text, and from all others by its front
  cases h with
  | won a b c d port theirs connection extensions hsupports =>
    have hid : ("Remote peer ID: " ++ theirs.peerId.hex).toList.take 2 ≠ ['\n', 'S'] := by
      rw [String.toList_append]
      exact (by decide : ['R', 'e'] ≠ ['\n', 'S'])
    have hrest := connected_notMem peer (List.forall_mem_cons.mpr ⟨hid, hsupports.take_ne⟩)
    rw [List.mem_cons, or_iff_left hrest, ← Peer.append_text, String.append_right_inj,
      Peer.text_injective.eq_iff]
    constructor
    · rintro rfl
      exact ⟨theirs, connection, rfl⟩
    · rintro ⟨_, _, hwon⟩
      exact (congrArg Prod.fst (Option.some.inj hwon)).symm
  | lost =>
    have hlost : ∀ line ∈ ["\nFailed to handshake with any peers"],
        line.toList.take 2 ≠ ['\n', 'S'] := by decide
    simp only [connected_notMem peer hlost, reduceCtorEq, exists_false]

end Conclusion

/-! ## The run -/

@[simp]
theorem Run.after_events (events : List Event) (run : Run) :
    (run.after events).events = events ++ run.events :=
  rfl

@[simp]
theorem Run.after_exitCode (events : List Event) (run : Run) :
    (run.after events).exitCode = run.exitCode :=
  rfl

theorem Run.filterMap_lineOf_print (lines : List String) :
    (lines.map Event.print).filterMap lineOf = lines := by
  simp [List.filterMap_map, Function.comp_def, lineOf]

theorem Run.filterMap_lineOf_announce (asked : List Url.Address) :
    (asked.map Event.announce).filterMap lineOf = [] := by
  simp [lineOf]

section Torrent

variable {network : Network} {options : Options} {metainfo : Metainfo} {peerId : Octets 20}

/-- Without an answer of the tracker a run is over. -/
theorem runTorrent_of_error {fault : TrackerError}
    (h : (Tracker.announceOver network.web metainfo peerId options.port).result = .error fault) :
    let announced := Tracker.announceOver network.web metainfo peerId options.port
    runTorrent network options metainfo peerId =
      ⟨(report metainfo ++ ["\nDiscovering peers..."]).map .print ++
        announced.asked.toList.map .announce, false⟩ := by
  simp only [runTorrent, h]

/-- With an answer of the tracker a run goes on with the peers that it has told. -/
theorem runTorrent_of_ok {response : Tracker.Response}
    (h : (Tracker.announceOver network.web metainfo peerId options.port).result = .ok response) :
    let announced := Tracker.announceOver network.web metainfo peerId options.port
    runTorrent network options metainfo peerId =
      (dialPeers network options metainfo peerId response.peers).after
        ((report metainfo ++ ["\nDiscovering peers..."]).map .print ++
          announced.asked.toList.map .announce) := by
  simp only [runTorrent, h]

end Torrent

/-- Once the tracker has told some peers, a run lists them, dials the first of them and ends with
what the race at these comes to. -/
theorem exists_dialPeers_eq (surroundings : Surroundings) (options : Options) (metainfo : Metainfo)
    (peerId : Octets 20) (peers : List Peer) :
    let run := dialPeers surroundings.network options metainfo peerId peers
    let shown := peers.take options.maxPeers
    let limit := Duration.ofSeconds options.timeout
    ∃ ending, run.events = (peerLines peers options.maxPeers).map .print ++
        [.print "\nAttempting handshakes with peers...",
          .dial shown metainfo.infoHash peerId limit] ++ ending.map .print ∧
      Conclusion (winner? (surroundings.completed shown metainfo.infoHash peerId limit)) ending
        run.exitCode := by
  intro run shown limit
  obtain ⟨ending, hending, hconclusion⟩ :=
    exists_finish_eq (surroundings.completed shown metainfo.infoHash peerId limit)
  refine ⟨ending, ?_, hconclusion⟩
  simp only [run, dialPeers, Surroundings.network, Run.after_events, hending, shown, limit,
    List.map_append, List.append_assoc]
  rfl

/-- **What a run does.** The program with its arguments ends as the run does, and prints what the
run prints. Without a torrent a run fails and does nothing at all. Else it describes the torrent and
announces it, which is to ask its tracker at the address that tells the torrent, the id, the port
and how much is needed; where that comes to no answer the run fails, and has dialled no peers. With
an answer it lists the first of the peers that the tracker has told, and dials those it has listed,
for the torrent and under the id that it has announced. The attempts at them, one for each, are a
race, which comes to the first success in the order in which they complete: the run names its peer
and succeeds, and there is one just if the attempt at one of the peers completes with a handshake of
the torrent in time. -/
theorem run_dials_listed_peers (surroundings : Surroundings) (options : Options)
    (file : Option Bytes) (peerId : Octets 20) :
    let run := Command.run surroundings.network options file peerId
    (∀ files arguments, Options.parse? arguments = some options → files options.path = file →
      execute surroundings.network files peerId arguments = (run.exitCode, run.output)) ∧
    (∀ fault, Metainfo.ofFile file = .error fault → run.exitCode = 1 ∧ run.events = []) ∧
    ∀ metainfo, Metainfo.ofFile file = .ok metainfo →
      let request : Tracker.Request :=
        ⟨metainfo.infoHash, peerId, options.port, metainfo.totalLength⟩
      let announced := Tracker.announceOver surroundings.web metainfo peerId options.port
      let described := report metainfo ++ ["\nDiscovering peers..."]
      let opening := described.map Event.print ++ announced.asked.toList.map .announce
      Announces surroundings.web metainfo.announce request announced ∧
      (∀ fault, announced.result = .error fault →
        run.exitCode = 1 ∧ run.events = opening ∧
          ∀ peers infoHash peerId limit, .dial peers infoHash peerId limit ∉ run.events) ∧
      ∀ response, announced.result = .ok response →
        ∃ shown listing won ending reported,
          let limit : Duration := ⟨options.timeout * 1000⟩
          let entered := surroundings.entered shown request.infoHash request.peerId limit
          let completed := surroundings.completed shown request.infoHash request.peerId limit
          Listing response.peers options.maxPeers shown listing ∧
          run.events = opening ++ listing.map .print ++
            [.print "\nAttempting handshakes with peers...",
              .dial shown request.infoHash request.peerId limit] ++ ending.map .print ∧
          run.output = String.join ((described ++ listing ++
            ["\nAttempting handshakes with peers..."] ++ ending).map (· ++ "\n")) ∧
          entered.map Attempt.peer = shown ∧ Ends entered completed won reported ∧
          Conclusion won ending run.exitCode ∧
          (run.exitCode = 0 ↔ ∃ place peer theirs, shown[place]? = some peer ∧
            (surroundings.contact place peer request.infoHash request.peerId).Completes
              request.infoHash limit theirs) ∧
          (∀ peer, "\nSuccessfully connected to peer: " ++ peer.text ∈ ending ↔
            ∃ theirs connection, won = some (peer, theirs, connection)) ∧
          ∀ peer theirs connection, won = some (peer, theirs, connection) →
            ∃ before after, completed = before ++ ⟨peer, .ok (theirs, connection)⟩ :: after ∧
              ∀ attempt ∈ before, ∃ fault, attempt.outcome = .error fault := by
  intro run
  refine ⟨fun files arguments harguments hfile => ?_, fun fault hfile => ?_,
    fun metainfo hfile => ?_⟩
  · simp only [execute, harguments, hfile, run]
  · have hstops : run = ⟨[], false⟩ := by simp only [run, Command.run, hfile]
    rw [hstops]
    exact ⟨rfl, rfl⟩
  intro request announced described opening
  have htorrent : run = runTorrent surroundings.network options metainfo peerId := by
    simp only [run, Command.run, hfile]
  refine ⟨Tracker.announces_iff.mpr rfl, fun fault hannounced => ?_,
    fun response hannounced => ?_⟩
  · have hstops : run = ⟨opening, false⟩ := by
      rw [htorrent]
      exact runTorrent_of_error hannounced
    rw [hstops]
    exact ⟨rfl, rfl, by simp [opening]⟩
  · let limit : Duration := ⟨options.timeout * 1000⟩
    let shown := response.peers.take options.maxPeers
    let listing := peerLines response.peers options.maxPeers
    let completed := surroundings.completed shown request.infoHash request.peerId limit
    -- what is announced and what is dialled are taken from the same torrent and id
    obtain ⟨ending, hdials, hconclusion⟩ :=
      exists_dialPeers_eq surroundings options metainfo peerId response.peers
    have hrun : run = (dialPeers surroundings.network options metainfo peerId
        response.peers).after opening := by
      rw [htorrent]
      exact runTorrent_of_ok hannounced
    have hevents : run.events = opening ++ listing.map .print ++
        [.print "\nAttempting handshakes with peers...",
          .dial shown request.infoHash request.peerId limit] ++ ending.map .print := by
      rw [hrun, Run.after_events, hdials]
      simp only [List.append_assoc]
      rfl
    have hcode : Conclusion (winner? completed) ending run.exitCode := by
      rw [hrun, Run.after_exitCode]
      exact hconclusion
    have hlines : run.lines = described ++ listing ++
        ["\nAttempting handshakes with peers..."] ++ ending := by
      simp only [Run.lines, hevents, opening, List.filterMap_append, Run.filterMap_lineOf_print,
        Run.filterMap_lineOf_announce, List.append_nil]
      rfl
    refine ⟨shown, listing, winner? completed, ending, Session.failures completed,
      listing_peerLines .., hevents, ?_, surroundings.map_peer_entered .., ?_, hcode, ?_,
      fun peer => hcode.mem_iff,
      fun peer theirs connection hwon => Session.winner?_eq_some_iff.mp hwon⟩
    · rw [Run.output, hlines]
    · exact (Session.ends_iff (surroundings.completed_perm ..)).mpr ⟨rfl, rfl⟩
    · rw [hcode.code_eq_zero_iff]
      exact surroundings.isSome_winner?_iff shown request.infoHash request.peerId limit

/-! ## A run that finds a peer -/

/-- A file of one piece, whose tracker is the host itself. -/
def soloFile : Bytes :=
  Bytes.ofString ("d8:announce12:http://[::1]4:infod6:lengthi1e4:name1:a12:piece lengthi1e" ++
    "6:pieces20:aaaaaaaaaaaaaaaaaaaaee")

/-- What that file says. -/
def soloTorrent : Metainfo where
  announce := "http://[::1]"
  announceList := none
  creationDate := none
  comment := none
  createdBy := none
  encoding := none
  info :=
    { name := "a", pieceLength := 1, pieces := List.replicate 20 97, content := .single 1
      privacy := none
      raw := some (Bytes.ofString
        "d6:lengthi1e4:name1:a12:piece lengthi1e6:pieces20:aaaaaaaaaaaaaaaaaaaae") }

/-- The answer of a tracker that tells three peers. -/
def threePeers : Tracker.Response where
  interval := 900
  minInterval := none
  complete := none
  incomplete := none
  peers := [⟨127, 0, 0, 1, 6881⟩, ⟨127, 0, 0, 2, 6881⟩, ⟨127, 0, 0, 3, 6881⟩]

/-- The reply of a tracker that gives this answer. -/
def threePeersReply : Tracker.Reply where
  status := 200
  location := none
  body := Bytes.ofString "d8:intervali900e5:peers18:" ++
    threePeers.peers.flatMap Peer.compact ++ Bytes.ofString "e"

/-- A tracker that tells three peers. The first of them that is dialled cannot be reached, and the
second answers at once. -/
def secondAnswers : Surroundings where
  web := Tracker.fetch .up [threePeersReply]
  contact place _ infoHash _ :=
    if place = 1 then
      ⟨.ok (Session.openConnection (Handshake.standard infoHash (Octets.zero 20)).encode), some ⟨0⟩⟩
    else ⟨.error .connectionRefused, some ⟨0⟩⟩
  complete := id
  complete_perm _ := .refl _

theorem exists_announce_threePeersReply (peerId : Octets 20) (port : UInt16) :
    ∃ address, Tracker.announce .up [threePeersReply] soloTorrent peerId port =
      ⟨some address, ["GET " ++ address.requestTarget], none, .ok threePeers⟩ := by
  let tracker : Url.Address :=
    { scheme := "http", username := "", password := ""
      host := some (.ipv6 ⟨[0, 0, 0, 0, 0, 0, 0, 1]⟩), port := none
      path := .segments [""], query := none, fragment := none }
  have htracker : Url.Address.parse soloTorrent.announce = .ok tracker := by decide +kernel
  have hread : Tracker.Response.read threePeersReply.body = (none, .ok threePeers) := by
    decide +kernel
  let request := Tracker.announceRequest soloTorrent peerId port
  have hfetch : Tracker.fetch .up [threePeersReply] (request.asking tracker) =
      (["GET " ++ (request.asking tracker).requestTarget], .ok threePeersReply.body) :=
    Tracker.fetch_of_ok rfl _
  refine ⟨request.asking tracker, ?_⟩
  rw [Tracker.announce, Tracker.announceOver, request.address_of_parse htracker]
  simp only [hfetch, hread]

/-- How the three peers are listed where two may be shown. -/
theorem eq_of_listing_threePeers {shown : List Peer} {lines : List String}
    (h : Listing threePeers.peers 2 shown lines) :
    shown = [⟨127, 0, 0, 1, 6881⟩, ⟨127, 0, 0, 2, 6881⟩] ∧
      lines = ["Found 3 peers:", "  127.0.0.1:6881", "  127.0.0.2:6881", "... and 1 more"] := by
  obtain ⟨hbegins, hlength, rest, hrest, hlines⟩ := h
  obtain rfl : shown = [⟨127, 0, 0, 1, 6881⟩, ⟨127, 0, 0, 2, 6881⟩] := by
    rw [List.prefix_iff_eq_take.mp hbegins, hlength]
    rfl
  refine ⟨rfl, ?_⟩
  cases hrest with
  | none h => exact absurd h (by decide)
  | more count _ h =>
    obtain rfl : count = 1 := Nat.add_left_cancel h.symm
    exact hlines.trans (by decide +kernel)

theorem completes_secondAnswers (peer : Peer) (infoHash peerId : Octets 20) (limit : Duration) :
    (secondAnswers.contact 1 peer infoHash peerId).Completes infoHash limit
      (Handshake.standard infoHash (Octets.zero 20)) where
  answers := ⟨_, [], rfl, show 68 ≤ 64 * 1024 by decide, (List.append_nil _).symm⟩
  infoHash_eq := rfl
  inTime := ⟨⟨0⟩, rfl, Nat.zero_le _, Nat.zero_le _⟩

/-- Of two peers none but the second can win. -/
theorem eq_of_mem_secondAnswers {infoHash peerId : Octets 20} {first second peer : Peer}
    {limit : Duration} {prize : Handshake × Connection}
    (h : ⟨peer, .ok prize⟩ ∈ secondAnswers.completed [first, second] infoHash peerId limit) :
    peer = second := by
  have hfirst : ((secondAnswers.contact 0 first infoHash peerId).attempt infoHash peerId
      limit).outcome = .error (.transfer .connectionRefused) := rfl
  obtain ⟨_, _, hcontact, hattempt⟩ := Session.mem_attempts_iff.mp h
  obtain ⟨place, hpeer, rfl⟩ := (Surroundings.mem_contacts_iff ..).mp hcontact
  obtain ⟨rfl, houtcome⟩ := Attempt.mk.inj hattempt
  -- the attempt at the first fails, and there is no third
  match place with
  | 0 =>
    obtain rfl := Option.some.inj hpeer
    rw [hfirst] at houtcome
    cases houtcome
  | 1 => exact (Option.some.inj hpeer).symm
  | place + 2 => cases hpeer

/-- A run that may dial two of three peers, the second of which answers. -/
theorem run_dials_listed_peers_second :
    let run := Command.run secondAnswers.network ⟨"a", 6881, 2, 5⟩ (some soloFile) (Octets.zero 20)
    Metainfo.ofFile (some soloFile) = .ok soloTorrent ∧ run.exitCode = 0 ∧
      ∃ address after,
        Tracker.announce .up [threePeersReply] soloTorrent (Octets.zero 20) 6881 =
          ⟨some address, ["GET " ++ address.requestTarget], none, .ok threePeers⟩ ∧
        run.events = (report soloTorrent ++ ["\nDiscovering peers..."]).map .print ++
          [.announce address, .print "Found 3 peers:", .print "  127.0.0.1:6881",
            .print "  127.0.0.2:6881", .print "... and 1 more",
            .print "\nAttempting handshakes with peers...",
            .dial [⟨127, 0, 0, 1, 6881⟩, ⟨127, 0, 0, 2, 6881⟩] soloTorrent.infoHash
              (Octets.zero 20) ⟨5000⟩,
            .print "\nSuccessfully connected to peer: 127.0.0.2:6881"] ++ after := by
  intro run
  have hfile : Metainfo.ofFile (some soloFile) = .ok soloTorrent := by decide +kernel
  obtain ⟨address, hannounce⟩ := exists_announce_threePeersReply (Octets.zero 20) 6881
  have hannounced : Tracker.announceOver secondAnswers.web soloTorrent (Octets.zero 20) 6881 =
      ⟨some address, ["GET " ++ address.requestTarget], none, .ok threePeers⟩ := hannounce
  obtain ⟨-, -, hrun⟩ :=
    run_dials_listed_peers secondAnswers ⟨"a", 6881, 2, 5⟩ (some soloFile) (Octets.zero 20)
  obtain ⟨-, -, hanswer⟩ := hrun soloTorrent hfile
  obtain ⟨shown, listing, won, ending, _, hlisting, hevents, -, -, -, hconclusion, hcode, -,
    hwon⟩ := hanswer threePeers (by rw [hannounced])
  obtain ⟨rfl, rfl⟩ := eq_of_listing_threePeers hlisting
  have hzero : run.exitCode = 0 := hcode.mpr ⟨1, _, _, rfl, completes_secondAnswers ..⟩
  obtain ⟨⟨peer, theirs, connection⟩, rfl⟩ :=
    Option.isSome_iff_exists.mp (hconclusion.code_eq_zero_iff.mp hzero)
  obtain ⟨before, late, hcompleted, -⟩ := hwon peer theirs connection rfl
  obtain rfl : peer = ⟨127, 0, 0, 2, 6881⟩ :=
    eq_of_mem_secondAnswers (hcompleted ▸ List.mem_append_right _ List.mem_cons_self)
  have hending : ∃ rest,
      ending = "\nSuccessfully connected to peer: 127.0.0.2:6881" :: rest := by
    rw [hzero] at hconclusion
    cases hconclusion with
    | won => exact ⟨_, congrArg (List.cons · _) (by decide +kernel)⟩
  obtain ⟨rest, rfl⟩ := hending
  refine ⟨hfile, hzero, address, rest.map .print, hannounce, ?_⟩
  rw [hevents, hannounced]
  simp only [List.append_assoc]
  rfl

end Swarm.Command
