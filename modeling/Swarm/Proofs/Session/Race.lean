import Mathlib.Data.List.Perm.Basic
import Swarm.Proofs.Session.Attempt
import Swarm.Session.JoinLoop

/-!
# The first success wins a race

Whatever attempts complete while others are looked at, those looked at are the first to have
completed, and none of them succeeded as long as the race goes on. So a race comes to the first
success of the order in which its attempts complete, and it is lost only when all of them have
failed. An attempt succeeds only with a handshake that came over its own connection and passed the
exchange, which speaks of the torrent asked for.

## Main definitions

* `RaceState.Inv`: what holds of a race once the attempts of an order have completed
* `RaceState.weight`: what a race has still to do, at most
* `timedOutLast`: the order in which attempts at peers of known behaviour complete

## Main results

* `RaceState.Step.inv`, `RaceState.Steps.inv`: every step keeps the invariant, and so does every
  run
* `RaceState.wellFounded_step`, `RaceState.exists_step`: every race is over some time
* `RaceState.exists_steps_of_perm`: every order can come about
* `ends_iff`: what a race comes to
* `exists_ends_of_race`: the race at peers of known behaviour is one of these
* `winner?_eq_none_iff`, `winner?_eq_some_iff`: an order without a success, and its first success
* `map_peer_attempts`, `isSome_winner?_iff_completes`: who is dialled, and when someone wins
* `race_keeps_first_success`: all of these, with what the winner has
-/

namespace Swarm.Session

open Wire (Connection Duration Handshake PeerError)

variable {Peer Won : Type} {attempt : Attempt Peer Won} {entered order : List (Attempt Peer Won)}
  {won : Option (Peer × Won)} {reported : List PeerError}

/-! ## The first success of an order -/

theorem Attempt.won?_eq_some_iff {peer : Peer} {prize : Won} :
    attempt.won? = some (peer, prize) ↔ attempt = ⟨peer, .ok prize⟩ := by
  obtain ⟨peer', outcome⟩ := attempt
  cases outcome with
  | error fault => simp [won?]
  | ok prize' => simp [won?]

theorem Attempt.won?_eq_none_iff :
    attempt.won? = none ↔ ∃ fault, attempt.outcome = .error fault := by
  obtain ⟨peer, outcome⟩ := attempt
  cases outcome with
  | error fault => simp [won?]
  | ok prize => simp [won?]

theorem winner?_append (early late : List (Attempt Peer Won)) :
    winner? (early ++ late) = (winner? early).or (winner? late) :=
  List.findSome?_append

/-- Once an attempt has succeeded, no fault is reported any more. -/
theorem failures_append (early late : List (Attempt Peer Won)) :
    failures (early ++ late) =
      failures early ++ if (winner? early).isSome then [] else failures late := by
  induction early with
  | nil => simp [failures, winner?]
  | cons attempt early ih =>
    obtain ⟨peer, outcome⟩ := attempt
    cases outcome with
    | error fault =>
      simp only [winner?] at ih
      simp [failures, winner?, Attempt.won?, ih]
    | ok prize => simp [failures, winner?, Attempt.won?]

namespace RaceState

variable {state next : RaceState Peer Won} {completes : Option (Attempt Peer Won)}

/-! ## What every step keeps -/

/-- **The invariant of a race**, once the attempts of an order have completed. They and those that
run are the attempts that were started. While the race goes on, those looked at are the first to
have completed, none of them succeeded, and their faults are those reported. -/
def Inv (entered order : List (Attempt Peer Won)) : RaceState Peer Won → Prop
  | .waiting running completed reported =>
    (order ++ running).Perm entered ∧
      ∃ seen, order = seen ++ completed ∧ winner? seen = none ∧ reported = failures seen
  | .ended won reported =>
    ∃ running, (order ++ running).Perm entered ∧ won = winner? order ∧
      reported = failures order ∧ (won = none → running = [])

theorem inv_start : Inv entered [] (start entered) :=
  ⟨List.Perm.refl _, [], rfl, rfl, rfl⟩

theorem Step.inv (step : Step state completes next) (h : Inv entered order state) :
    Inv entered (order ++ completes.toList) next := by
  cases step with
  | completes before after completed reported attempt =>
    obtain ⟨hperm, seen, rfl, hnone, rfl⟩ := h
    refine ⟨List.Perm.trans ?_ hperm, seen, List.append_assoc .., hnone, rfl⟩
    rw [Option.toList_some, List.append_assoc, List.singleton_append]
    exact List.Perm.append_left _ List.perm_middle.symm
  | looks running completed reported attempt =>
    obtain ⟨hperm, seen, rfl, hnone, rfl⟩ := h
    rw [Option.toList_none, List.append_nil]
    obtain ⟨peer, outcome⟩ := attempt
    cases outcome with
    | error fault =>
      refine ⟨hperm, seen ++ [⟨peer, .error fault⟩], by simp, ?_, ?_⟩
      · rw [winner?_append, hnone]
        rfl
      · rw [failures_append, hnone]
        rfl
    | ok prize =>
      refine ⟨running, hperm, ?_, ?_, fun h => by cases h⟩
      · rw [winner?_append, hnone]
        rfl
      · rw [failures_append, hnone]
        exact (List.append_nil _).symm
  | lost reported =>
    obtain ⟨hperm, seen, rfl, hnone, rfl⟩ := h
    refine ⟨[], ?_, ?_, ?_, fun _ => rfl⟩
    · simpa using hperm
    · simpa using hnone.symm
    · simp

theorem Steps.inv (steps : Steps (start entered) order state) : Inv entered order state := by
  induction steps with
  | refl => exact inv_start
  | tail _ step ih => exact step.inv ih

/-! ## Every race is over some time -/

/-- What a race has still to do, at most. -/
def weight : RaceState Peer Won → Nat
  | .waiting running completed _ => 2 * running.length + completed.length + 1
  | .ended _ _ => 0

theorem Step.weight_lt (step : Step state completes next) : next.weight < state.weight := by
  cases step with
  | completes before after completed reported attempt =>
    simp only [weight, List.length_append, List.length_cons, List.length_nil]
    omega
  | looks running completed reported attempt =>
    obtain ⟨peer, outcome⟩ := attempt
    cases outcome <;> simp only [look, weight, List.length_cons] <;> omega
  | lost reported => exact Nat.zero_lt_succ _

/-- No race goes on for ever. -/
theorem wellFounded_step :
    WellFounded fun next state : RaceState Peer Won => ∃ completes, Step state completes next :=
  Subrelation.wf (fun ⟨_, step⟩ => step.weight_lt) (measure weight).wf

/-- A race that is not over goes on. -/
theorem exists_step (running completed : List (Attempt Peer Won)) (reported : List PeerError) :
    ∃ completes next, Step (.waiting running completed reported) completes next := by
  cases completed with
  | cons attempt completed => exact ⟨_, _, .looks ..⟩
  | nil =>
    cases running with
    | cons attempt running => exact ⟨_, _, .completes [] running [] reported attempt⟩
    | nil => exact ⟨_, _, .lost reported⟩

/-! ## Every order can come about -/

theorem Steps.trans {first last : RaceState Peer Won} {early late : List (Attempt Peer Won)}
    (before : Steps first early state) (after : Steps state late last) :
    Steps first (early ++ late) last := by
  induction after with
  | refl => rwa [List.append_nil]
  | tail _ step ih =>
    rw [← List.append_assoc]
    exact .tail ih step

/-- An attempt that runs may complete next and be looked at right away. -/
theorem steps_look (before after : List (Attempt Peer Won)) (reported : List PeerError)
    (attempt : Attempt Peer Won) :
    Steps (.waiting (before ++ attempt :: after) [] reported) [attempt]
      (look attempt (before ++ after) [] reported) :=
  .tail (.tail (.refl _) (.completes before after [] reported attempt))
    (.looks (before ++ after) [] reported attempt)

/-- A race whose attempts complete in some order, each looked at right away, comes to the first
success of that order. -/
theorem exists_steps_of_perm {running : List (Attempt Peer Won)} (h : order.Perm running)
    (reported : List PeerError) :
    ∃ early, early <+: order ∧
      Steps (.waiting running [] reported) early
        (.ended (winner? order) (reported ++ failures order)) := by
  induction order generalizing running reported with
  | nil =>
    obtain rfl := List.nil_perm.mp h
    refine ⟨[], List.prefix_rfl, ?_⟩
    rw [failures, List.append_nil]
    exact .tail (.refl _) (.lost reported)
  | cons attempt order ih =>
    obtain ⟨before, after, rfl⟩ := List.append_of_mem (h.subset List.mem_cons_self)
    have hrest : order.Perm (before ++ after) :=
      List.Perm.cons_inv (h.trans List.perm_middle)
    obtain ⟨peer, outcome⟩ := attempt
    cases outcome with
    | ok prize =>
      refine ⟨[⟨peer, .ok prize⟩], by simp, ?_⟩
      rw [failures, List.append_nil]
      exact steps_look before after reported ⟨peer, .ok prize⟩
    | error fault =>
      obtain ⟨early, hearly, hsteps⟩ := ih hrest (reported ++ [fault])
      refine ⟨⟨peer, .error fault⟩ :: early, (List.prefix_cons_inj _).mpr hearly, ?_⟩
      rw [List.append_assoc] at hsteps
      exact (steps_look before after reported ⟨peer, .error fault⟩).trans hsteps

end RaceState

/-- **What a race comes to** goes by the order in which its attempts complete, and by nothing else:
the first success of that order wins, and the faults before it are reported. -/
theorem ends_iff (h : order.Perm entered) :
    Ends entered order won reported ↔ won = winner? order ∧ reported = failures order := by
  constructor
  · rintro ⟨early, ⟨late, rfl⟩, hsteps⟩
    obtain ⟨running, hperm, rfl, rfl, hall⟩ := hsteps.inv
    rw [winner?_append, failures_append]
    cases hwon : winner? early with
    | some prize => simp
    | none =>
      -- a race that is lost has waited for every attempt
      obtain rfl := hall hwon
      have hlate : late = [] := by
        have hlength := (h.trans hperm.symm).length_eq
        simpa using hlength
      subst hlate
      simp [winner?, failures]
  · rintro ⟨rfl, rfl⟩
    exact RaceState.exists_steps_of_perm h []

/-- Every race that has ended has done so under some order, which begins with the attempts that have
completed. -/
theorem exists_ends_of_steps
    (steps : RaceState.Steps (.start entered) order (.ended won reported)) :
    ∃ all : List (Attempt Peer Won), all.Perm entered ∧ Ends entered all won reported := by
  obtain ⟨running, hperm, -⟩ := steps.inv
  exact ⟨order ++ running, hperm, order, List.prefix_append .., steps⟩

/-! ## Who wins -/

theorem winner?_eq_none_iff :
    winner? order = none ↔ ∀ attempt ∈ order, ∃ fault, attempt.outcome = .error fault := by
  simp only [winner?, List.findSome?_eq_none_iff, Attempt.won?_eq_none_iff]

theorem isSome_winner?_iff :
    (winner? order).isSome = true ↔ ∃ peer prize, ⟨peer, .ok prize⟩ ∈ order := by
  rw [winner?, List.findSome?_isSome_iff]
  constructor
  · rintro ⟨attempt, hmem, hwon⟩
    obtain ⟨⟨peer, prize⟩, hprize⟩ := Option.isSome_iff_exists.mp hwon
    obtain rfl := Attempt.won?_eq_some_iff.mp hprize
    exact ⟨peer, prize, hmem⟩
  · rintro ⟨peer, prize, hmem⟩
    exact ⟨_, hmem, rfl⟩

theorem winner?_eq_some_iff {peer : Peer} {prize : Won} :
    winner? order = some (peer, prize) ↔ ∃ before after,
      order = before ++ ⟨peer, .ok prize⟩ :: after ∧
        ∀ attempt ∈ before, ∃ fault, attempt.outcome = .error fault := by
  simp only [winner?, List.findSome?_eq_some_iff, Attempt.won?_eq_none_iff,
    Attempt.won?_eq_some_iff]
  constructor
  · rintro ⟨before, _, after, rfl, rfl, hbefore⟩
    exact ⟨before, after, rfl, hbefore⟩
  · rintro ⟨before, after, rfl, hbefore⟩
    exact ⟨before, _, after, rfl, rfl, hbefore⟩

/-! ## The attempts at listed peers -/

section Listed

variable {peers : List (Peer × Contact)} {infoHash peerId : Octets 20} {limit : Duration}

/-- Each listed peer is dialled once, in the order of the list. -/
theorem map_peer_attempts (peers : List (Peer × Contact)) (infoHash peerId : Octets 20)
    (limit : Duration) :
    (attempts peers infoHash peerId limit).map Attempt.peer = peers.map Prod.fst := by
  rw [attempts, List.map_map]
  rfl

theorem mem_attempts_iff {attempt : Attempt Peer (Handshake × Connection)} :
    attempt ∈ attempts peers infoHash peerId limit ↔ ∃ peer contact, (peer, contact) ∈ peers ∧
      attempt = ⟨peer, (contact.attempt infoHash peerId limit).outcome⟩ := by
  rw [attempts, List.mem_map]
  constructor
  · rintro ⟨⟨peer, contact⟩, hpeer, rfl⟩
    exact ⟨peer, contact, hpeer, rfl⟩
  · rintro ⟨peer, contact, hpeer, rfl⟩
    exact ⟨(peer, contact), hpeer, rfl⟩

/-- **Someone wins** just if the attempt at one of the listed peers completes with a handshake. -/
theorem isSome_winner?_iff_completes {order : List (Attempt Peer (Handshake × Connection))}
    (h : order.Perm (attempts peers infoHash peerId limit)) :
    (winner? order).isSome = true ↔ ∃ peer contact theirs, (peer, contact) ∈ peers ∧
      contact.Completes infoHash limit theirs := by
  -- an attempt that succeeds is one of those at the listed peers, whatever the order
  rw [isSome_winner?_iff]
  constructor
  · rintro ⟨peer, ⟨theirs, connection⟩, hwins⟩
    obtain ⟨_, contact, hpeer, hattempt⟩ := mem_attempts_iff.mp (h.subset hwins)
    obtain ⟨rfl, houtcome⟩ := Attempt.mk.inj hattempt
    have hcompletes := Contact.exists_attempt_eq_ok_iff.mp ⟨connection, houtcome.symm⟩
    exact ⟨peer, contact, theirs, hpeer, hcompletes⟩
  · rintro ⟨peer, contact, theirs, hpeer, hcompletes⟩
    obtain ⟨connection, houtcome⟩ := Contact.exists_attempt_eq_ok_iff.mpr hcompletes
    refine ⟨peer, (theirs, connection), h.symm.subset ?_⟩
    exact mem_attempts_iff.mpr ⟨peer, contact, hpeer, by rw [houtcome]⟩

end Listed

/-! ## Peers of known behaviour -/

section Behaviour

variable {Kept : Type} (keep : Won → Kept) (completed : List (Attempt Peer Won))

theorem Attempt.timedOut_map (attempt : Attempt Peer Won) :
    (attempt.map keep).timedOut = attempt.timedOut := by
  obtain ⟨peer, fault | won⟩ := attempt
  · cases fault <;> rfl
  · rfl

/-- The first success does not depend on what is kept of it. -/
theorem winner?_map :
    winner? (completed.map (·.map keep)) = (winner? completed).map (Prod.map id keep) := by
  induction completed with
  | nil => rfl
  | cons attempt completed ih =>
    obtain ⟨peer, fault | won⟩ := attempt
    · exact ih
    · rfl

theorem failures_map : failures (completed.map (·.map keep)) = failures completed := by
  induction completed with
  | nil => rfl
  | cons attempt completed ih =>
    obtain ⟨peer, fault | won⟩ := attempt
    · exact congrArg (fault :: ·) ih
    · rfl

end Behaviour

/-- The order in which attempts complete that are over at once or take all their time. -/
def timedOutLast (entered : List (Attempt Peer Won)) : List (Attempt Peer Won) :=
  entered.filter (!·.timedOut) ++ entered.filter (·.timedOut)

theorem timedOutLast_perm (entered : List (Attempt Peer Won)) :
    (timedOutLast entered).Perm entered := by
  have hsplit := List.filter_append_perm (fun attempt => !attempt.timedOut) entered
  simp only [Bool.not_not] at hsplit
  exact hsplit

/-- At peers of known behaviour the attempts complete in this order. -/
theorem race_eq (link : Link) (peers : List (Peer × Behaviour)) (infoHash peerId : Octets 20)
    (limit : Duration) :
    race link peers infoHash peerId limit =
      (timedOutLast (attempts (peers.map fun (peer, behaviour) => (peer, behaviour.contact link))
        infoHash peerId limit)).map (·.map Prod.fst) := by
  simp only [race, timedOutLast, List.filter_map, List.map_append, Function.comp_def,
    Attempt.timedOut_map]

/-- The race at peers of known behaviour is one that can come about: the first of its successes wins
it, and the faults before that one are reported. -/
theorem exists_ends_of_race (link : Link) (peers : List (Peer × Behaviour))
    (infoHash peerId : Octets 20) (limit : Duration) :
    let contacts := peers.map fun (peer, behaviour) => (peer, behaviour.contact link)
    let entered := attempts contacts infoHash peerId limit
    ∃ order won, order.Perm entered ∧
      Ends entered order won (failures (race link peers infoHash peerId limit)) ∧
      winner? (race link peers infoHash peerId limit) = won.map (Prod.map id Prod.fst) := by
  intro contacts entered
  have hperm := timedOutLast_perm entered
  refine ⟨timedOutLast entered, winner? (timedOutLast entered), hperm,
    (ends_iff hperm).mpr ⟨rfl, ?_⟩, ?_⟩
  · rw [race_eq, failures_map]
  · rw [race_eq, winner?_map]

/-! ## The result -/

/-- **A race keeps the first success and loses none.** Every listed peer is dialled, once for each
time it is listed, and its attempt comes to what reaching for it comes to. No race goes on for ever,
and each that does not go on has ended under some order in which all its attempts complete. Under
every such order a race can end, and comes to the first success of that order and to nothing else:
to none just if every attempt fails, that is if no listed peer completes a handshake of the torrent
in time, and to an attempt just if it succeeds and all that complete before it fail. The peer that
wins is the one the attempt was made at, its handshake is the one that came over the connection that
is kept, and speaks of the torrent. -/
theorem race_keeps_first_success (peers : List (Peer × Contact)) (infoHash peerId : Octets 20)
    (limit : Duration) :
    let entered := attempts peers infoHash peerId limit
    (entered.map Attempt.peer = peers.map Prod.fst ∧
      ∀ (place : Nat) peer contact, peers[place]? = some (peer, contact) →
        entered[place]? = some ⟨peer, (contact.attempt infoHash peerId limit).outcome⟩) ∧
    (WellFounded fun next state : RaceState Peer (Handshake × Connection) =>
      ∃ completes, RaceState.Step state completes next) ∧
    (∀ early state, RaceState.Steps (.start entered) early state →
      (∃ completes next, RaceState.Step state completes next) ∨
        ∃ order won reported, state = .ended won reported ∧ order.Perm entered ∧
          Ends entered order won reported) ∧
    ∀ order : List (Attempt Peer (Handshake × Connection)), order.Perm entered →
      ((∃ reported, Ends entered order (winner? order) reported) ∧
        ∀ won reported, Ends entered order won reported → won = winner? order) ∧
      (winner? order = none ↔ ∀ attempt ∈ entered, ∃ fault, attempt.outcome = .error fault) ∧
      (winner? order = none ↔ ¬∃ peer contact theirs, (peer, contact) ∈ peers ∧
        contact.Completes infoHash limit theirs) ∧
      ∀ peer theirs connection,
        (winner? order = some (peer, theirs, connection) ↔
          ∃ before after, order = before ++ ⟨peer, .ok (theirs, connection)⟩ :: after ∧
            ∀ attempt ∈ before, ∃ fault, attempt.outcome = .error fault) ∧
        (winner? order = some (peer, theirs, connection) →
          theirs.infoHash = infoHash ∧
          ∃ contact opened tail, (peer, contact) ∈ peers ∧
            (contact.attempt infoHash peerId limit).outcome = .ok (theirs, connection) ∧
            contact.opened = .ok opened ∧ opened.source.pending = theirs.encode ++ tail ∧
            connection.source = opened.source.rest tail) := by
  intro entered
  refine ⟨⟨map_peer_attempts peers infoHash peerId limit, fun place peer contact hpeer => ?_⟩,
    RaceState.wellFounded_step, fun early state steps => ?_, fun order hperm => ⟨⟨?_, ?_⟩, ?_, ?_,
      fun peer theirs connection => ⟨winner?_eq_some_iff, fun hwon => ?_⟩⟩⟩
  · simp only [entered, attempts, List.getElem?_map, hpeer, Option.map_some]
  · cases state with
    | waiting running completed reported =>
      exact .inl (RaceState.exists_step running completed reported)
    | ended won reported =>
      obtain ⟨order, hperm, hends⟩ := exists_ends_of_steps steps
      exact .inr ⟨order, won, reported, rfl, hperm, hends⟩
  · exact ⟨_, (ends_iff hperm).mpr ⟨rfl, rfl⟩⟩
  · exact fun won reported hends => ((ends_iff hperm).mp hends).1
  · rw [winner?_eq_none_iff]
    exact forall_congr' fun attempt => by rw [hperm.mem_iff]
  · rw [← Option.not_isSome_iff_eq_none, isSome_winner?_iff_completes hperm]
  · obtain ⟨before, after, rfl, -⟩ := winner?_eq_some_iff.mp hwon
    have hentered : ⟨peer, .ok (theirs, connection)⟩ ∈ entered :=
      hperm.subset (List.mem_append_right _ List.mem_cons_self)
    obtain ⟨_, contact, hpeer, hattempt⟩ := mem_attempts_iff.mp hentered
    obtain ⟨rfl, houtcome⟩ := Attempt.mk.inj hattempt
    obtain ⟨hinfoHash, opened, tail, hopened, hpending, hrest⟩ :=
      Contact.exists_opened_of_attempt houtcome.symm
    exact ⟨hinfoHash, contact, opened, tail, hpeer, houtcome.symm, hopened, hpending, hrest⟩

end Swarm.Session
