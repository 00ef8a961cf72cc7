import Swarm.Proofs.Bytes.Decimal
import Swarm.Tracker.Peer

/-!
# Peers in compact form, and their text

Peers one after the other are read back from their compact form, and nothing but the compact form
of peers is read. The text of a peer tells it from all others.

## Main results

* `Peer.ofCompact_eq_ok_iff`: which octets are peers, and of which they are the compact form
* `Peer.ofCompact_eq_error_iff`: which octets are not
* `Peer.ofCompact_append`: peers in a row of octets and in the row behind it
* `Peer.ofCompact_faithful`: nothing is lost, made up or put in another order
* `Peer.text_injective`: peers with the same text are the same
-/

namespace Swarm.Tracker.Peer

variable {data : Bytes} {peers : List Peer}

theorem length_compact (peer : Peer) : peer.compact.length = 6 := rfl

/-- Peers are read back from their compact form. -/
theorem groups_flatMap_compact (peers : List Peer) : groups (peers.flatMap compact) = peers := by
  induction peers with
  | nil => rfl
  | cons peer peers ih =>
    rw [List.flatMap_cons]
    simp only [compact, BigEndian.ofUInt16, List.cons_append, List.nil_append, groups,
      BigEndian.toUInt16_ofUInt16]
    exact congrArg (List.cons peer) ih

/-- Groups of six octets with nothing left over are the compact form of the peers they name. -/
theorem flatMap_compact_groups (h : 6 ∣ data.length) : (groups data).flatMap compact = data := by
  fun_induction groups data with
  | case1 a b c d high low rest ih =>
    have hrest : 6 ∣ rest.length := by
      simp only [List.length_cons] at h
      omega
    rw [List.flatMap_cons, ih hrest, compact, BigEndian.ofUInt16_toUInt16]
    rfl
  | case2 data hnone =>
    -- with six octets or more there would be a group
    rcases data with _ | ⟨a, _ | ⟨b, _ | ⟨c, _ | ⟨d, _ | ⟨high, _ | ⟨low, rest⟩⟩⟩⟩⟩⟩
    case nil => rfl
    case cons.cons.cons.cons.cons.cons => exact absurd rfl (hnone a b c d high low rest)
    all_goals
      simp only [List.length_cons, List.length_nil] at h
      omega

theorem length_flatMap_compact (peers : List Peer) :
    (peers.flatMap compact).length = 6 * peers.length := by
  induction peers with
  | nil => rfl
  | cons peer peers ih =>
    rw [List.flatMap_cons, List.length_append, ih, length_compact, List.length_cons]
    omega

/-- **What peers are read from** is their compact form, and nothing else. -/
theorem ofCompact_eq_ok_iff : ofCompact data = .ok peers ↔ data = peers.flatMap compact := by
  rw [ofCompact]
  constructor
  · intro h
    split at h
    next hlength =>
      rw [Except.ok.injEq] at h
      rw [← h, flatMap_compact_groups (Nat.dvd_of_mod_eq_zero hlength)]
    next => cases h
  · rintro rfl
    have hlength : (peers.flatMap compact).length % 6 = 0 := by
      rw [length_flatMap_compact, Nat.mul_mod_right]
    rw [if_pos hlength, groups_flatMap_compact]

/-- Peers are read from a whole number of groups of six octets. -/
theorem exists_ofCompact_eq_ok_iff : (∃ peers, ofCompact data = .ok peers) ↔ 6 ∣ data.length := by
  simp only [ofCompact_eq_ok_iff]
  constructor
  · rintro ⟨peers, rfl⟩
    exact ⟨peers.length, length_flatMap_compact peers⟩
  · exact fun h => ⟨groups data, (flatMap_compact_groups h).symm⟩

/-- **What no peers are read from** is what leaves octets over. -/
theorem ofCompact_eq_error_iff {fault : TrackerError} :
    ofCompact data = .error fault ↔
      ¬6 ∣ data.length ∧ fault = .invalidPeerListLength data.length := by
  rw [ofCompact, Nat.dvd_iff_mod_eq_zero]
  constructor
  · intro h
    split at h
    next => cases h
    next hlength => exact ⟨hlength, (Except.error.inj h).symm⟩
  · rintro ⟨hlength, rfl⟩
    rw [if_neg hlength]

/-- What is read from a row of octets does not depend on what is in front of it. -/
theorem ofCompact_append {other : Bytes} {others : List Peer} (h : ofCompact data = .ok peers)
    (hother : ofCompact other = .ok others) :
    ofCompact (data ++ other) = .ok (peers ++ others) := by
  rw [ofCompact_eq_ok_iff] at h hother ⊢
  rw [List.flatMap_append, ← h, ← hother]

/-- The six octets of a peer are its address and its port, the more significant octet of the port
first. -/
theorem exists_compact_eq (peer : Peer) : ∃ high low : UInt8,
    peer.compact = [peer.a, peer.b, peer.c, peer.d, high, low] ∧
      peer.port.toNat = 256 * high.toNat + low.toNat := by
  refine ⟨(peer.port >>> 8).toUInt8, peer.port.toUInt8, rfl, ?_⟩
  have hhigh := (peer.port >>> 8).toUInt8.toNat_lt
  have hlow := peer.port.toUInt8.toNat_lt
  calc peer.port.toNat
      = (BigEndian.toUInt16 (peer.port >>> 8).toUInt8 peer.port.toUInt8).toNat := by
        rw [BigEndian.toUInt16_ofUInt16]
    _ = ((peer.port >>> 8).toUInt8.toNat * 256 + peer.port.toUInt8.toNat) % 65536 :=
        UInt16.toNat_ofNat'
    _ = 256 * (peer.port >>> 8).toUInt8.toNat + peer.port.toUInt8.toNat := by
        omega

/-- **Compact form is faithful.** A peer is written as the octets of its address and its port, the
more significant octet first. Peers are read from a row of octets just if six divides its length,
and else the fault tells the length. There are as many as there are groups of six, and written in
order they are the octets they were read from. Any peers, in any order and however often each
occurs, are read back as they are, and peers written behind others are read behind them. -/
theorem ofCompact_faithful :
    (∀ peer : Peer, ∃ high low : UInt8,
      peer.compact = [peer.a, peer.b, peer.c, peer.d, high, low] ∧
        peer.port.toNat = 256 * high.toNat + low.toNat) ∧
    (∀ data,
      ((∃ peers, ofCompact data = .ok peers) ↔ 6 ∣ data.length) ∧
      (∀ fault, ofCompact data = .error fault ↔
        ¬6 ∣ data.length ∧ fault = .invalidPeerListLength data.length) ∧
      ∀ peers, ofCompact data = .ok peers →
        peers.length = data.length / 6 ∧ peers.flatMap compact = data) ∧
    (∀ peers, ofCompact (peers.flatMap compact) = .ok peers) ∧
    ∀ data other, 6 ∣ data.length → 6 ∣ other.length → ∃ peers others,
      ofCompact data = .ok peers ∧ ofCompact other = .ok others ∧
        ofCompact (data ++ other) = .ok (peers ++ others) := by
  refine ⟨exists_compact_eq, fun data => ⟨exists_ofCompact_eq_ok_iff,
    fun fault => ofCompact_eq_error_iff, fun peers h => ?_⟩,
    fun peers => ofCompact_eq_ok_iff.mpr rfl, fun data other hdata hother => ?_⟩
  · obtain rfl := ofCompact_eq_ok_iff.mp h
    rw [length_flatMap_compact, Nat.mul_div_cancel_left _ (by decide)]
    exact ⟨rfl, rfl⟩
  · obtain ⟨peers, hpeers⟩ := exists_ofCompact_eq_ok_iff.mpr hdata
    obtain ⟨others, hothers⟩ := exists_ofCompact_eq_ok_iff.mpr hother
    exact ⟨peers, others, hpeers, hothers, ofCompact_append hpeers hothers⟩

/-! ## The text of a peer -/

/-- Four numbers with points between them, and one behind a colon. -/
theorem append_text (lead : String) (a b c d : UInt8) (port : UInt16) :
    lead ++ text ⟨a, b, c, d, port⟩ =
      s!"{lead}{a.toNat}.{b.toNat}.{c.toNat}.{d.toNat}:{port.toNat}" := by
  simp only [text, String.append_assoc]
  rfl

/-- **The text of a peer** tells its address and its port. -/
theorem text_injective : Function.Injective text := by
  rintro ⟨a, b, c, d, port⟩ ⟨a', b', c', d', port'⟩ h
  have hpoint : '.'.isDigit = false := by decide
  have hcolon : ':'.isDigit = false := by decide
  have htext (a b c d : UInt8) (port : UInt16) : text ⟨a, b, c, d, port⟩ =
      toString a.toNat ++ (String.singleton '.' ++ (toString b.toNat ++ (String.singleton '.' ++
        (toString c.toNat ++ (String.singleton '.' ++ (toString d.toNat ++
          (String.singleton ':' ++ toString port.toNat))))))) := by
    simp only [text, String.append_assoc]
    rfl
  rw [htext, htext] at h
  -- one number after the other is told from the sign behind it
  obtain ⟨ha, h⟩ := Decimal.toString_append_inj hpoint h
  obtain ⟨hb, h⟩ := Decimal.toString_append_inj hpoint h
  obtain ⟨hc, h⟩ := Decimal.toString_append_inj hpoint h
  obtain ⟨hd, h⟩ := Decimal.toString_append_inj hcolon h
  rw [mk.injEq]
  exact ⟨UInt8.toNat_inj.mp ha, UInt8.toNat_inj.mp hb, UInt8.toNat_inj.mp hc,
    UInt8.toNat_inj.mp hd, UInt16.toNat_inj.mp (Decimal.toString_inj.mp h)⟩

end Swarm.Tracker.Peer
