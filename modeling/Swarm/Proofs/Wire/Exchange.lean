import Swarm.Proofs.Wire.Handshake
import Swarm.Wire.Exchange

/-!
# What an exchange of handshakes lets through

One side sends its handshake, all of it, before it reads anything. Where the other side does not
take all of it nothing is read at all. Else what is read is a fault, or a handshake that is let
through just if it speaks of the same torrent, and whatever follows it is still there to be read.

## Main results

* `Connection.handshake_of_lt`, `Connection.handshake_of_le`: the exchange where the other side
  takes too little, and where it takes all
* `Connection.sink_handshake`: what is sent
* `Connection.exists_handshake_eq_ok_iff`: the exchange succeeds just if the other side takes all
  and answers with a handshake of the torrent
* `Connection.handshake_gate`: what is sent, what comes of it, and what is left
-/

namespace Swarm.Wire

open Swarm.Stream (Source)

/-- The octets of a handshake of the standard protocol: they carry the digest of the torrent and the
id of the side that sends it. -/
theorem Handshake.encode_standard (infoHash peerId : Octets 20) :
    (Handshake.standard infoHash peerId).encode =
      19 :: Bytes.ofString "BitTorrent protocol" ++ List.replicate 8 0 ++ infoHash.data ++
        peerId.data := by
  have hlength : protocolName.length = 19 := by decide
  simp only [encode, standard, hlength, List.cons_append]
  rfl

/-- A handshake of the standard protocol has 68 octets. -/
theorem Handshake.length_encode_standard (infoHash peerId : Octets 20) :
    (Handshake.standard infoHash peerId).encode.length = 68 := by
  rw [encode_eq_cons_body, List.length_cons, length_body]
  rfl

namespace Connection

variable {connection : Connection} {infoHash peerId : Octets 20}

/-- Where the other side takes too little, the exchange ends before anything is read. -/
theorem handshake_of_lt (h : connection.sink.room < 68) :
    connection.handshake infoHash peerId =
      (.error (.transfer .writeZero),
        { connection with
          sink := connection.sink.accept
            ((Handshake.standard infoHash peerId).encode.take connection.sink.room) }) := by
  have hlong : ¬ (Handshake.standard infoHash peerId).encode.length ≤ connection.sink.room := by
    rw [Handshake.length_encode_standard]
    exact Nat.not_le.mpr h
  simp only [handshake, Stream.Sink.writeAll_eq, if_neg hlong]

/-- Where the other side takes all, the exchange goes by what is read. -/
theorem handshake_of_le (h : 68 ≤ connection.sink.room) :
    connection.handshake infoHash peerId =
      ((Handshake.read connection.source).1.bind
          (accept infoHash (Handshake.standard infoHash peerId)),
        { source := (Handshake.read connection.source).2
          sink := connection.sink.accept
            ((Handshake.standard infoHash peerId).encode.take connection.sink.room) }) := by
  have hfits : (Handshake.standard infoHash peerId).encode.length ≤ connection.sink.room := by
    rw [Handshake.length_encode_standard]
    exact h
  simp only [handshake, Stream.Sink.writeAll_eq, if_pos hfits]

/-- What is sent is what the other side takes of our handshake, whatever comes of the exchange. -/
theorem sink_handshake (connection : Connection) (infoHash peerId : Octets 20) :
    (connection.handshake infoHash peerId).2.sink =
      connection.sink.accept
        ((Handshake.standard infoHash peerId).encode.take connection.sink.room) := by
  by_cases h : connection.sink.room < 68
  · rw [handshake_of_lt h]
  · rw [handshake_of_le (Nat.le_of_not_lt h)]

/-- A handshake is let through just if it speaks of the torrent that ours speaks of. -/
theorem accept_eq_ok_iff {ours theirs accepted : Handshake} :
    accept infoHash ours theirs = .ok accepted ↔
      theirs = accepted ∧ theirs.infoHash = ours.infoHash := by
  rw [accept]
  split
  next h => simp only [Except.ok.injEq, h, and_true]
  next h => simp only [reduceCtorEq, h, and_false]

/-- Where the exchange succeeds, the handshake that came is the one that was there to be read, it
speaks of the torrent, and what is behind it is left. -/
theorem exists_tail_of_handshake {theirs : Handshake} {after : Connection}
    (h : connection.handshake infoHash peerId = (.ok theirs, after)) :
    theirs.infoHash = infoHash ∧ ∃ tail, connection.source.pending = theirs.encode ++ tail ∧
      after.source = connection.source.rest tail := by
  by_cases hroom : connection.sink.room < 68
  · rw [handshake_of_lt hroom] at h
    cases (Prod.mk.inj h).1
  · rw [handshake_of_le (Nat.le_of_not_lt hroom)] at h
    obtain ⟨hresult, rfl⟩ := Prod.mk.inj h
    rcases hread : Handshake.read connection.source with ⟨fault | read, rest⟩
    · rw [hread] at hresult
      cases hresult
    · rw [hread] at hresult
      obtain ⟨rfl, hinfoHash⟩ := accept_eq_ok_iff.mp hresult
      obtain ⟨tail, hpending, rfl⟩ := Handshake.read_eq_ok_iff.mp hread
      exact ⟨hinfoHash, tail, hpending, rfl⟩

/-- The exchange succeeds just if the other side takes all of our handshake and answers with one of
the torrent. -/
theorem exists_handshake_eq_ok_iff {theirs : Handshake} :
    (∃ after, connection.handshake infoHash peerId = (.ok theirs, after)) ↔
      68 ≤ connection.sink.room ∧ theirs.infoHash = infoHash ∧
        ∃ tail, connection.source.pending = theirs.encode ++ tail := by
  constructor
  · rintro ⟨after, h⟩
    obtain ⟨hinfoHash, tail, hpending, -⟩ := exists_tail_of_handshake h
    refine ⟨Nat.le_of_not_lt fun hroom => ?_, hinfoHash, tail, hpending⟩
    rw [handshake_of_lt hroom] at h
    cases (Prod.mk.inj h).1
  · rintro ⟨hroom, hinfoHash, tail, hpending⟩
    have hread : Handshake.read connection.source = (.ok theirs, connection.source.rest tail) :=
      Handshake.read_eq_ok_iff.mpr ⟨tail, hpending, rfl⟩
    have haccept : accept infoHash (Handshake.standard infoHash peerId) theirs = .ok theirs :=
      accept_eq_ok_iff.mpr ⟨rfl, hinfoHash⟩
    rw [handshake_of_le hroom, hread]
    exact ⟨_, Prod.ext haccept rfl⟩

/-- What comes of an exchange, what was sent and what is left do not depend on the pieces that the
octets are taken and come in. -/
theorem handshake_congr {other : Connection}
    (hpending : other.source.pending = connection.source.pending)
    (hwritten : other.sink.written = connection.sink.written)
    (hroom : other.sink.room = connection.sink.room) :
    (other.handshake infoHash peerId).1 = (connection.handshake infoHash peerId).1 ∧
      (other.handshake infoHash peerId).2.sink.written =
        (connection.handshake infoHash peerId).2.sink.written ∧
      (other.handshake infoHash peerId).2.source.pending =
        (connection.handshake infoHash peerId).2.source.pending := by
  obtain ⟨hresult, hrest⟩ := Handshake.read_congr hpending
  by_cases h : connection.sink.room < 68
  · rw [handshake_of_lt h, handshake_of_lt (hroom ▸ h)]
    simp only [Stream.Sink.accept, hwritten, hroom, hpending, and_self]
  · rw [handshake_of_le (Nat.le_of_not_lt h), handshake_of_le (hroom ▸ Nat.le_of_not_lt h)]
    simp only [Stream.Sink.accept, hwritten, hroom, hresult, hrest, and_self]

/-- **The exchange is a gate.** Our handshake carries the digest of the torrent and our id. What is
sent is the beginning of it that the other side takes. If that is not all of its 68 octets, the
exchange fails and nothing has been read. Else it comes to the fault of reading a handshake, or,
where a whole handshake is there, lets it through just if it speaks of our torrent, names both
torrents if it does not, and in both cases leaves what is behind it. None of this depends on the
pieces the octets are taken and come in. -/
theorem handshake_gate (connection : Connection) (infoHash peerId : Octets 20) :
    let ours := Handshake.standard infoHash peerId
    let result := (connection.handshake infoHash peerId).1
    let after := (connection.handshake infoHash peerId).2
    (ours.infoHash = infoHash ∧ ours.peerId = peerId ∧
      ours.encode = 19 :: Bytes.ofString "BitTorrent protocol" ++ List.replicate 8 0 ++
        infoHash.data ++ peerId.data) ∧
    (after.sink.written = connection.sink.written ++ ours.encode.take connection.sink.room ∧
      (ours.encode.take connection.sink.room).length = min connection.sink.room 68) ∧
    (connection.sink.room < 68 →
      result = .error (.transfer .writeZero) ∧ after.source = connection.source) ∧
    (68 ≤ connection.sink.room →
      (∀ fault, (Handshake.read connection.source).1 = .error fault → result = .error fault) ∧
      (∀ theirs tail, connection.source.pending = theirs.encode ++ tail →
        (result = .ok theirs ↔ theirs.infoHash = infoHash) ∧
        (theirs.infoHash ≠ infoHash →
          result = .error (.infoHashMismatch infoHash theirs.infoHash)) ∧
        after.source = connection.source.rest tail) ∧
      ((∃ fault, (Handshake.read connection.source).1 = .error fault) ↔
        ¬ ∃ theirs tail, connection.source.pending = Handshake.encode theirs ++ tail)) ∧
    ∀ other : Connection, other.source.pending = connection.source.pending →
      other.sink.written = connection.sink.written → other.sink.room = connection.sink.room →
      (other.handshake infoHash peerId).1 = result ∧
      (other.handshake infoHash peerId).2.sink.written = after.sink.written ∧
      (other.handshake infoHash peerId).2.source.pending = after.source.pending := by
  intro ours result after
  refine ⟨⟨rfl, rfl, Handshake.encode_standard infoHash peerId⟩, ⟨?_, ?_⟩, fun h => ?_,
    fun h => ⟨fun fault hfault => ?_, fun theirs tail hpending => ?_,
      Handshake.exists_read_eq_error_iff⟩, fun other => handshake_congr⟩
  · simp only [after, sink_handshake, Stream.Sink.accept, ours]
  · rw [List.length_take, Handshake.length_encode_standard]
  · simp only [result, after, handshake_of_lt h, and_self]
  · simp only [result, handshake_of_le h, hfault, Except.bind]
  · have hread : Handshake.read connection.source = (.ok theirs, connection.source.rest tail) :=
      Handshake.read_eq_ok_iff.mpr ⟨tail, hpending, rfl⟩
    have hresult : result = accept infoHash ours theirs := by
      simp only [result, handshake_of_le h, hread, Except.bind, ours]
    have hours : ours.infoHash = infoHash := rfl
    refine ⟨?_, fun hother => ?_, ?_⟩
    · simp only [hresult, accept_eq_ok_iff, hours, true_and]
    · rw [hresult, accept, hours, if_neg hother]
    · simp only [after, handshake_of_le h, hread]

end Connection

end Swarm.Wire
