import Swarm.Bytes.BigEndian
import Swarm.Stream.Fault

/-!
# Reading from a connection

A connection hands out its octets in pieces: one read gives at most `chunk` of them, and none
only at the end. A reader that needs a number of octets reads until it has them all.

## Main definitions

* `Source`: the octets still to come, and how many one read gives
* `Source.readExact`: a block of a given length
* `Source.readUInt8`, `Source.readUInt32`: a number

## Main results

* `Source.readExact_of_le`, `Source.readExact_of_lt`: a block is read if there are octets enough,
  else all octets are gone; the pieces do not matter
-/

namespace Swarm.Stream

/-- The octets still to come from a connection, of which one read gives at most `chunk`. -/
structure Source where
  pending : Bytes
  chunk : Nat
  chunk_pos : 0 < chunk

namespace Source

/-- The same connection with other octets to come. -/
def rest (source : Source) (pending : Bytes) : Source :=
  { source with pending }

/-- One read of at most `wanted` octets. -/
def read (source : Source) (wanted : Nat) : Bytes × Source :=
  let size := min wanted source.chunk
  (source.pending.take size, source.rest (source.pending.drop size))

/-- Reads until `wanted` more octets have come. The pieces of `got`, the latest first, came
before. -/
def collect (source : Source) (got : List Bytes) (wanted : Nat) : Option Bytes × Source :=
  if wanted = 0 then (some got.reverse.flatten, source)
  else
    let (piece, rest) := source.read wanted
    -- An empty piece is the end of the connection.
    if _h : piece.length = 0 then (none, rest)
    else rest.collect (piece :: got) (wanted - piece.length)
termination_by wanted

/-- Reads exactly `wanted` octets, unless the connection ends before. -/
def readExact (source : Source) (wanted : Nat) : Option Bytes × Source :=
  source.collect [] wanted

/-- Reads an octet. -/
def readUInt8 (source : Source) : Except Fault UInt8 × Source :=
  match source.readExact 1 with
  | (some [byte], rest) => (.ok byte, rest)
  | (_, rest) => (.error .unexpectedEnd, rest)

/-- Reads a word of four octets. -/
def readUInt32 (source : Source) : Except Fault UInt32 × Source :=
  match source.readExact 4 with
  | (some [a, b, c, d], rest) => (.ok (BigEndian.toUInt32 a b c d), rest)
  | (_, rest) => (.error .unexpectedEnd, rest)

/-- Reads a block of octets. -/
def readBlock (source : Source) (length : Nat) : Except Fault Bytes × Source :=
  match source.readExact length with
  | (some block, rest) => (.ok block, rest)
  | (none, rest) => (.error .earlyEnd, rest)

@[simp] theorem rest_rest (source : Source) (a b : Bytes) :
    (source.rest a).rest b = source.rest b := rfl

@[simp] theorem pending_rest (source : Source) (pending : Bytes) :
    (source.rest pending).pending = pending := rfl

@[simp] theorem chunk_rest (source : Source) (pending : Bytes) :
    (source.rest pending).chunk = source.chunk := rfl

theorem collect_of_le (source : Source) (got : List Bytes) (wanted : Nat)
    (h : wanted ≤ source.pending.length) :
    source.collect got wanted =
      (some (got.reverse.flatten ++ source.pending.take wanted),
        source.rest (source.pending.drop wanted)) := by
  induction wanted using Nat.strongRecOn generalizing source got with
  | _ wanted ih =>
    rw [collect]
    by_cases hw : wanted = 0
    · simp [hw, rest]
    · -- a piece of at least one octet, then the rest (induction)
      have hc := source.chunk_pos
      have hlen : (source.pending.take (min wanted source.chunk)).length =
          min wanted source.chunk := by
        rw [List.length_take]
        omega
      simp only [hw, if_false, read, hlen]
      rw [dif_neg (by omega), ih _ (by omega) _ _ (by simp; omega)]
      have hsplit : source.pending.take wanted =
          source.pending.take (min wanted source.chunk) ++
            (source.pending.drop (min wanted source.chunk)).take
              (wanted - min wanted source.chunk) := by
        rw [← List.take_add]
        congr 1
        omega
      simp only [pending_rest, List.reverse_cons, List.flatten_append, List.flatten_cons,
        List.flatten_nil, List.append_nil, List.append_assoc, hsplit, List.drop_drop, rest_rest]
      congr 3
      omega

theorem collect_of_lt (source : Source) (got : List Bytes) (wanted : Nat)
    (h : source.pending.length < wanted) :
    source.collect got wanted = (none, source.rest []) := by
  induction wanted using Nat.strongRecOn generalizing source got with
  | _ wanted ih =>
    rw [collect]
    have hc := source.chunk_pos
    have hw : wanted ≠ 0 := by omega
    have hlen : (source.pending.take (min wanted source.chunk)).length =
        min source.chunk source.pending.length := by
      rw [List.length_take]
      omega
    simp only [hw, if_false, read, hlen]
    by_cases hp : source.pending.length = 0
    · simp [List.length_eq_zero_iff.mp hp]
    · -- the piece leaves fewer octets than are still wanted
      rw [dif_neg (by omega), ih _ (by omega) _ _ (by simp; omega), rest_rest]

/-- A block is read, and no more than the block, if there are octets enough. -/
theorem readExact_of_le (source : Source) (wanted : Nat) (h : wanted ≤ source.pending.length) :
    source.readExact wanted =
      (some (source.pending.take wanted), source.rest (source.pending.drop wanted)) := by
  simp [readExact, collect_of_le _ _ _ h]

/-- All octets are gone if there are not enough of them for a block. -/
theorem readExact_of_lt (source : Source) (wanted : Nat) (h : source.pending.length < wanted) :
    source.readExact wanted = (none, source.rest []) :=
  collect_of_lt _ _ _ h

end Source

end Swarm.Stream
