import Gatehouse.Data.Utf8
/-!
# Digests and keyed digests

SHA-256, and the keyed digest HMAC built on it.  A message is padded to blocks of sixteen words; the
state of eight words is put through sixty-four rounds for each block, one for each word of the
block's schedule.
-/

namespace Gatehouse.Sha256

/-- The constants of the rounds. -/
def roundConstants : List UInt32 := [
  0x428a2f98, 0x71374491, 0xb5c0fbcf, 0xe9b5dba5, 0x3956c25b, 0x59f111f1, 0x923f82a4, 0xab1c5ed5,
  0xd807aa98, 0x12835b01, 0x243185be, 0x550c7dc3, 0x72be5d74, 0x80deb1fe, 0x9bdc06a7, 0xc19bf174,
  0xe49b69c1, 0xefbe4786, 0x0fc19dc6, 0x240ca1cc, 0x2de92c6f, 0x4a7484aa, 0x5cb0a9dc, 0x76f988da,
  0x983e5152, 0xa831c66d, 0xb00327c8, 0xbf597fc7, 0xc6e00bf3, 0xd5a79147, 0x06ca6351, 0x14292967,
  0x27b70a85, 0x2e1b2138, 0x4d2c6dfc, 0x53380d13, 0x650a7354, 0x766a0abb, 0x81c2c92e, 0x92722c85,
  0xa2bfe8a1, 0xa81a664b, 0xc24b8b70, 0xc76c51a3, 0xd192e819, 0xd6990624, 0xf40e3585, 0x106aa070,
  0x19a4c116, 0x1e376c08, 0x2748774c, 0x34b0bcb5, 0x391c0cb3, 0x4ed8aa4a, 0x5b9cca4f, 0x682e6ff3,
  0x748f82ee, 0x78a5636f, 0x84c87814, 0x8cc70208, 0x90befffa, 0xa4506ceb, 0xbef9a3f7, 0xc67178f2]

/-- The eight words that a digest works on. -/
structure State where
  a : UInt32
  b : UInt32
  c : UInt32
  d : UInt32
  e : UInt32
  f : UInt32
  g : UInt32
  h : UInt32

/-- The state before the first block. -/
def initial : State :=
  ⟨0x6a09e667, 0xbb67ae85, 0x3c6ef372, 0xa54ff53a, 0x510e527f, 0x9b05688c, 0x1f83d9ab, 0x5be0cd19⟩

/-- Rotate a word to the right. -/
def rotate (n : UInt32) (word : UInt32) : UInt32 := (word >>> n) ||| (word <<< (32 - n))

/-- Extend a schedule of sixteen words, listed last word first, to `n` more words. -/
def extend : Nat → List UInt32 → List UInt32
  | 0, schedule => schedule
  | n + 1, schedule =>
      let w2 := schedule.getD 1 0
      let w7 := schedule.getD 6 0
      let w15 := schedule.getD 14 0
      let w16 := schedule.getD 15 0
      let s0 := rotate 7 w15 ^^^ rotate 18 w15 ^^^ (w15 >>> 3)
      let s1 := rotate 17 w2 ^^^ rotate 19 w2 ^^^ (w2 >>> 10)
      extend n ((w16 + s0 + w7 + s1) :: schedule)

/-- One round, with the word of the schedule and the constant of the round. -/
def round (state : State) (input : UInt32 × UInt32) : State :=
  let s1 := rotate 6 state.e ^^^ rotate 11 state.e ^^^ rotate 25 state.e
  let choice := (state.e &&& state.f) ^^^ ((state.e ^^^ 0xffffffff) &&& state.g)
  let first := state.h + s1 + choice + input.2 + input.1
  let s0 := rotate 2 state.a ^^^ rotate 13 state.a ^^^ rotate 22 state.a
  let majority := (state.a &&& state.b) ^^^ (state.a &&& state.c) ^^^ (state.b &&& state.c)
  ⟨first + (s0 + majority), state.a, state.b, state.c, state.d + first, state.e, state.f, state.g⟩

/-- The word of four bytes. -/
def word (a b c d : UInt8) : UInt32 :=
  (a.toUInt32 <<< 24) ||| (b.toUInt32 <<< 16) ||| (c.toUInt32 <<< 8) ||| d.toUInt32

/-- The words of some bytes, four for each. -/
def words : Bytes → List UInt32
  | a :: b :: c :: d :: rest => word a b c d :: words rest
  | _ => []

/-- Put one block of sixteen words into the state. -/
def compress (state : State) (block : List UInt32) : State :=
  let schedule := (extend 48 block.reverse).reverse
  let mixed := (schedule.zip roundConstants).foldl round state
  ⟨state.a + mixed.a, state.b + mixed.b, state.c + mixed.c, state.d + mixed.d,
    state.e + mixed.e, state.f + mixed.f, state.g + mixed.g, state.h + mixed.h⟩

/-- Put all blocks into the state; the first argument bounds their number. -/
def absorb : Nat → State → List UInt32 → State
  | 0, state, _ => state
  | n + 1, state, row => absorb n (compress state (row.take 16)) (row.drop 16)

/-- The eight bytes of a number, the highest first. -/
def bigEndian (n : Nat) : Bytes :=
  (List.range 8).reverse.map fun i => UInt8.ofNat (n >>> (8 * i))

/-- A message filled up to whole blocks: a one bit, zeros and the number of its bits. -/
def pad (message : Bytes) : Bytes :=
  let zeros := (119 - message.length % 64) % 64
  message ++ 0x80 :: List.replicate zeros 0 ++ bigEndian (8 * message.length)

/-- The bytes of a word. -/
def wordBytes (w : UInt32) : Bytes :=
  [(w >>> 24).toUInt8, (w >>> 16).toUInt8, (w >>> 8).toUInt8, w.toUInt8]

/-- The digest of a message, of thirty-two bytes. -/
def digest (message : Bytes) : Bytes :=
  let row := words (pad message)
  let s := absorb (row.length / 16) initial row
  [s.a, s.b, s.c, s.d, s.e, s.f, s.g, s.h].flatMap wordBytes

/-- A key as one block: a longer one is replaced by its digest, and zeros fill it up. -/
def keyBlock (key : Bytes) : Bytes :=
  let short := if 64 < key.length then digest key else key
  short ++ List.replicate (64 - short.length) 0

/-- The digest of a message under a key. -/
def hmac (key message : Bytes) : Bytes :=
  let block := keyBlock key
  digest (block.map (· ^^^ 0x5c) ++ digest (block.map (· ^^^ 0x36) ++ message))

end Gatehouse.Sha256
