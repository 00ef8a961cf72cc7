import Swarm.Proofs.Wire.Exchange
import Swarm.Session.Dial

/-!
# When an attempt at a peer succeeds

An attempt is an exchange of handshakes over a connection to the peer, inside the limit of time for
that, inside the limit of time of the attempt. So it succeeds just if the connection is opened, the
peer takes our handshake and answers with one of the same torrent, and both limits are kept. What it
wins is the handshake that came over that connection, and the connection behind it.

## Main definitions

* `Contact.Completes`: when an attempt succeeds, and with which handshake

## Main results

* `Timed.outcome_within_eq_ok_iff`: what is done within a limit of time
* `Contact.exists_attempt_eq_ok_iff`: an attempt succeeds just if it completes
* `Contact.exists_opened_of_attempt`: what it wins
-/

namespace Swarm.Session

open Wire (Connection Duration Handshake)

/-! ## Limits of time -/

namespace Timed

variable {α : Type} {timed : Timed α} {limit span : Duration} {result : α}

/-- A limit of time that is kept changes nothing. -/
theorem within_of_le (htakes : timed.takes = some span)
    (hspan : span.milliseconds ≤ limit.milliseconds) : timed.within limit = timed := by
  simp only [within, htakes, if_pos hspan]

/-- **What is done within a limit of time** is what would have been done without it, and keeps the
limit. -/
theorem outcome_within_eq_ok_iff : (timed.within limit).outcome = .ok result ↔
    timed.outcome = .ok result ∧
      ∃ span, timed.takes = some span ∧ span.milliseconds ≤ limit.milliseconds := by
  constructor
  · intro h
    unfold within at h
    split at h
    next span htakes =>
      split at h
      next hspan => exact ⟨h, span, htakes, hspan⟩
      next => cases h
    next => cases h
  · rintro ⟨h, span, htakes, hspan⟩
    rwa [within_of_le htakes hspan]

end Timed

/-! ## Attempts -/

namespace Contact

variable {contact : Contact} {infoHash peerId : Octets 20} {limit : Duration} {theirs : Handshake}
  {connection : Connection}

/-- **An attempt completes** with a handshake of the torrent: a connection is opened, the peer takes
all of our handshake, its own is the first that it sends, and that is done in three seconds and
before the limit of the attempt is over. -/
structure Completes (contact : Contact) (infoHash : Octets 20) (limit : Duration)
    (theirs : Handshake) : Prop where
  answers : ∃ connection tail, contact.opened = .ok connection ∧ 68 ≤ connection.sink.room ∧
    connection.source.pending = theirs.encode ++ tail
  infoHash_eq : theirs.infoHash = infoHash
  inTime : ∃ span, contact.takes = some span ∧
    span.milliseconds ≤ 3000 ∧ span.milliseconds ≤ limit.milliseconds

/-- An exchange succeeds over a connection that is opened. -/
theorem exchange_eq_ok_iff :
    (contact.exchange infoHash peerId).outcome = .ok (theirs, connection) ↔
      ∃ opened, contact.opened = .ok opened ∧
        opened.handshake infoHash peerId = (.ok theirs, connection) := by
  rcases hopened : contact.opened with fault | opened
  · simp [exchange, hopened]
  · simp only [exchange, hopened, Except.ok.injEq, exists_eq_left']
    rcases opened.handshake infoHash peerId with ⟨fault | read, rest⟩ <;> simp

/-- An attempt is an exchange that keeps both limits of time. -/
theorem attempt_eq_ok_iff :
    (contact.attempt infoHash peerId limit).outcome = .ok (theirs, connection) ↔
      (contact.exchange infoHash peerId).outcome = .ok (theirs, connection) ∧
        ∃ span, contact.takes = some span ∧ span.milliseconds ≤ connectLimit.milliseconds ∧
          span.milliseconds ≤ limit.milliseconds := by
  constructor
  · intro h
    obtain ⟨hconnect, span, htakes, hlimit⟩ := Timed.outcome_within_eq_ok_iff.mp h
    obtain ⟨hexchange, span', htakes', hconnectLimit⟩ := Timed.outcome_within_eq_ok_iff.mp hconnect
    -- the inner limit is kept, so the outer one is about the exchange itself
    rw [connect, Timed.within_of_le htakes' hconnectLimit, htakes', Option.some.injEq] at htakes
    subst htakes
    exact ⟨hexchange, span', htakes', hconnectLimit, hlimit⟩
  · rintro ⟨hexchange, span, htakes, hconnectLimit, hlimit⟩
    have hconnect : contact.connect infoHash peerId = contact.exchange infoHash peerId :=
      Timed.within_of_le htakes hconnectLimit
    rwa [attempt, hconnect, Timed.within_of_le htakes hlimit]

/-- **An attempt succeeds** just if it completes. Which id we have does not matter. -/
theorem exists_attempt_eq_ok_iff :
    (∃ connection, (contact.attempt infoHash peerId limit).outcome = .ok (theirs, connection)) ↔
      contact.Completes infoHash limit theirs := by
  simp only [attempt_eq_ok_iff, exchange_eq_ok_iff]
  constructor
  · rintro ⟨connection, ⟨opened, hopened, hhandshake⟩, hinTime⟩
    obtain ⟨hroom, hinfoHash, tail, hpending⟩ :=
      Connection.exists_handshake_eq_ok_iff.mp ⟨connection, hhandshake⟩
    exact ⟨⟨opened, tail, hopened, hroom, hpending⟩, hinfoHash, hinTime⟩
  · rintro ⟨⟨opened, tail, hopened, hroom, hpending⟩, hinfoHash, hinTime⟩
    obtain ⟨connection, hhandshake⟩ := Connection.exists_handshake_eq_ok_iff.mpr
      ⟨hroom, hinfoHash, tail, hpending⟩
    exact ⟨connection, ⟨opened, hopened, hhandshake⟩, hinTime⟩

/-- An attempt that succeeds has received the handshake itself, over the connection it keeps, and
the handshake speaks of the torrent. -/
theorem exists_opened_of_attempt
    (h : (contact.attempt infoHash peerId limit).outcome = .ok (theirs, connection)) :
    theirs.infoHash = infoHash ∧ ∃ opened tail, contact.opened = .ok opened ∧
      opened.source.pending = theirs.encode ++ tail ∧
      connection.source = opened.source.rest tail := by
  obtain ⟨opened, hopened, hhandshake⟩ := exchange_eq_ok_iff.mp (attempt_eq_ok_iff.mp h).1
  obtain ⟨hinfoHash, tail, hpending, hrest⟩ := Connection.exists_tail_of_handshake hhandshake
  exact ⟨hinfoHash, opened, tail, hopened, hpending, hrest⟩

end Contact

end Swarm.Session
