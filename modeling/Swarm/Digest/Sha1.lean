import Swarm.Bytes.BigEndian
import Swarm.Bytes.Octets

/-!
# SHA-1

The digest that names a torrent and checks its pieces: the message is padded to whole blocks of
64 octets, and each block in turn is mixed into five words.

## Main definitions

* `Sha1.State`: the five words
* `Sha1.pad`: the message, a one bit, zeros and the bit length, in whole blocks
* `Sha1.compress`: one block mixed into the words
* `sha1`: the digest of a message
-/

namespace Swarm

namespace Sha1

/-- The five words that the blocks are mixed into. -/
structure State where
  a : UInt32
  b : UInt32
  c : UInt32
  d : UInt32
  e : UInt32
  deriving DecidableEq

/-- The words before the first block. -/
def State.start : State :=
  ⟨0x67452301, 0xefcdab89, 0x98badcfe, 0x10325476, 0xc3d2e1f0⟩

/-- Rotates the bits of a word to the left. -/
def rotate (word : UInt32) (places : UInt32) : UInt32 :=
  word <<< places ||| word >>> (32 - places)

/-- The message, a one bit, zeros up to eight octets before the end of a block, and the length
of the message in bits. -/
def pad (data : Bytes) : Bytes :=
  let bits := UInt64.ofNat (data.length * 8)
  -- The one bit and the length take nine octets, and 119 is nine less than two blocks.
  let filling : Bytes := 0x80 :: List.replicate ((119 - data.length % 64) % 64) 0
  data ++ filling ++ BigEndian.ofUInt32 (bits >>> 32).toUInt32 ++
    BigEndian.ofUInt32 bits.toUInt32

/-- The big-endian words of a block, in order. -/
def words : Bytes → List UInt32
  | a :: b :: c :: d :: rest => BigEndian.toUInt32 a b c d :: words rest
  | _ => []

/-- The eighty words of a block: its own sixteen, then each the rotated sum modulo two of four
earlier ones. -/
def schedule (block : Bytes) : Array UInt32 :=
  (List.range 64).foldl (fun words i =>
    words.push (rotate (words.getD (i + 13) 0 ^^^ words.getD (i + 8) 0 ^^^
      words.getD (i + 2) 0 ^^^ words.getD i 0) 1)) (words block).toArray

/-- How the three middle words are mixed in a round. -/
def choose (round : Nat) (b c d : UInt32) : UInt32 :=
  if round < 20 then (b &&& c) ||| (~~~b &&& d)
  else if round < 40 then b ^^^ c ^^^ d
  else if round < 60 then (b &&& c) ||| (b &&& d) ||| (c &&& d)
  else b ^^^ c ^^^ d

/-- The constant that is added in a round. -/
def constant (round : Nat) : UInt32 :=
  if round < 20 then 0x5a827999
  else if round < 40 then 0x6ed9eba1
  else if round < 60 then 0x8f1bbcdc
  else 0xca62c1d6

/-- One round. -/
def step (words : Array UInt32) (state : State) (round : Nat) : State :=
  let mixed := rotate state.a 5 + choose round state.b state.c state.d + state.e +
    words.getD round 0 + constant round
  ⟨mixed, state.a, rotate state.b 30, state.c, state.d⟩

/-- Mixes a block into the words: eighty rounds, and their result added to the words before. -/
def compress (state : State) (block : Bytes) : State :=
  let mixed := (List.range 80).foldl (step (schedule block)) state
  ⟨state.a + mixed.a, state.b + mixed.b, state.c + mixed.c, state.d + mixed.d,
    state.e + mixed.e⟩

/-- The octets of the five words. -/
def State.octets (state : State) : Octets 20 :=
  ⟨BigEndian.ofUInt32 state.a ++ BigEndian.ofUInt32 state.b ++ BigEndian.ofUInt32 state.c ++
    BigEndian.ofUInt32 state.d ++ BigEndian.ofUInt32 state.e, rfl⟩

end Sha1

/-- The digest of a message. -/
def sha1 (data : Bytes) : Octets 20 :=
  ((Bytes.chunks 63 (Sha1.pad data)).foldl Sha1.compress Sha1.State.start).octets

end Swarm
