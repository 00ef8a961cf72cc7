import Swarm.Bytes.Basic
import Swarm.Stream.Fault

/-!
# Writing to a connection

A connection takes octets in pieces: one write takes at most `chunk` of them, and none only when
the other side has all it takes. A writer goes on until everything is written.

## Main definitions

* `Sink`: the octets written so far, and how many the other side still takes
* `Sink.writeAll`: everything written, or the fault of a side that takes no more

## Main results

* `Sink.writeAll_eq`: what is written is the beginning of the octets that there is room for; the
  pieces do not matter
-/

namespace Swarm.Stream

/-- A connection that takes `room` more octets, at most `chunk` in one write. -/
structure Sink where
  written : Bytes
  room : Nat
  chunk : Nat
  chunk_pos : 0 < chunk

namespace Sink

/-- The connection after some octets have been taken. -/
def accept (sink : Sink) (data : Bytes) : Sink :=
  { sink with written := sink.written ++ data, room := sink.room - data.length }

/-- Writes until all octets have been taken. -/
def writeAll (sink : Sink) (data : Bytes) : Except Fault Unit × Sink :=
  if _hdata : data.length = 0 then (.ok (), sink)
  else
    let size := min sink.room sink.chunk
    -- Pieces are not empty, so an empty one means that there is no more room.
    if _hsize : size = 0 then (.error .writeZero, sink)
    else (sink.accept (data.take size)).writeAll (data.drop size)
termination_by data.length
decreasing_by
  rw [List.length_drop]
  omega

/-- What is written is the beginning of the octets that there is room for, and the write fails
unless that is all of them. -/
theorem writeAll_eq (sink : Sink) (data : Bytes) :
    sink.writeAll data =
      (if data.length ≤ sink.room then .ok () else .error .writeZero,
        sink.accept (data.take sink.room)) := by
  fun_induction writeAll sink data with
  | case1 sink data hdata =>
    -- nothing to write
    have hnil := List.length_eq_zero_iff.mp hdata
    subst hnil
    simp [accept]
  | case2 sink data hdata size hsize =>
    -- no room: the written part is empty
    have hc := sink.chunk_pos
    have hroom : sink.room = 0 := by
      simp only [size] at hsize
      omega
    have hne : data ≠ [] := fun h => hdata (by simp [h])
    have hsink : sink.accept [] = sink := by simp [accept]
    simp [hroom, hne, hsink]
  | case3 sink data hdata size hsize ih =>
    -- a piece, then the rest (induction): together the beginning that there is room for
    rw [ih]
    have hlen : (data.take size).length = min size data.length := List.length_take
    have hle : size ≤ sink.room := Nat.min_le_left _ _
    simp only [accept, List.length_drop, hlen]
    have hfits : data.length - size ≤ sink.room - min size data.length ↔
        data.length ≤ sink.room := by omega
    have htake : data.take size ++ (data.drop size).take (sink.room - min size data.length) =
        data.take sink.room := by
      by_cases hs : size ≤ data.length
      · have hmin : min size data.length = size := by omega
        rw [hmin, ← List.take_add]
        congr 1
        omega
      · have hwhole : data.take size = data := List.take_of_length_le (by omega)
        have hnone : data.drop size = [] := List.drop_eq_nil_of_le (by omega)
        have hroom : data.take sink.room = data := List.take_of_length_le (by omega)
        simp [hwhole, hnone, hroom]
    have hroom : sink.room - min size data.length -
        ((data.drop size).take (sink.room - min size data.length)).length =
        sink.room - (data.take sink.room).length := by
      simp only [List.length_take, List.length_drop]
      omega
    simp only [hfits, List.append_assoc, htake, hroom]

end Sink

end Swarm.Stream
