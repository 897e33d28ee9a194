import Stencil.Text.Utf8

/-! The SHA-256 digest.

A message is filled up to whole blocks of 64 bytes, the last eight of which hold its length in
bits. Each block is spread over a schedule of 64 words and mixed into a state of eight words in 64
rounds. -/
namespace Stencil.Encoding.Sha256
open Text.Utf8 (Bytes)

/-- The round constants. -/
def roundConstants : List UInt32 := [
  0x428a2f98, 0x71374491, 0xb5c0fbcf, 0xe9b5dba5, 0x3956c25b, 0x59f111f1, 0x923f82a4, 0xab1c5ed5,
  0xd807aa98, 0x12835b01, 0x243185be, 0x550c7dc3, 0x72be5d74, 0x80deb1fe, 0x9bdc06a7, 0xc19bf174,
  0xe49b69c1, 0xefbe4786, 0x0fc19dc6, 0x240ca1cc, 0x2de92c6f, 0x4a7484aa, 0x5cb0a9dc, 0x76f988da,
  0x983e5152, 0xa831c66d, 0xb00327c8, 0xbf597fc7, 0xc6e00bf3, 0xd5a79147, 0x06ca6351, 0x14292967,
  0x27b70a85, 0x2e1b2138, 0x4d2c6dfc, 0x53380d13, 0x650a7354, 0x766a0abb, 0x81c2c92e, 0x92722c85,
  0xa2bfe8a1, 0xa81a664b, 0xc24b8b70, 0xc76c51a3, 0xd192e819, 0xd6990624, 0xf40e3585, 0x106aa070,
  0x19a4c116, 0x1e376c08, 0x2748774c, 0x34b0bcb5, 0x391c0cb3, 0x4ed8aa4a, 0x5b9cca4f, 0x682e6ff3,
  0x748f82ee, 0x78a5636f, 0x84c87814, 0x8cc70208, 0x90befffa, 0xa4506ceb, 0xbef9a3f7, 0xc67178f2
]

/-- Eight words. -/
structure State where
  a : UInt32
  b : UInt32
  c : UInt32
  d : UInt32
  e : UInt32
  f : UInt32
  g : UInt32
  h : UInt32
  deriving DecidableEq, Repr

/-- The state before the first block. -/
def State.start : State :=
  ⟨0x6a09e667, 0xbb67ae85, 0x3c6ef372, 0xa54ff53a, 0x510e527f, 0x9b05688c, 0x1f83d9ab, 0x5be0cd19⟩

/-- Turns a word to the right. -/
def rotate (x : UInt32) (n : UInt32) : UInt32 := (x >>> n) ||| (x <<< (32 - n))

/-- One round with a word of the schedule and its constant. -/
def State.round (s : State) (word : UInt32 × UInt32) : State :=
  let mixE := rotate s.e 6 ^^^ rotate s.e 11 ^^^ rotate s.e 25
  let choice := (s.e &&& s.f) ^^^ ((~~~ s.e) &&& s.g)
  let first := s.h + mixE + choice + word.1 + word.2
  let mixA := rotate s.a 2 ^^^ rotate s.a 13 ^^^ rotate s.a 22
  let majority := (s.a &&& s.b) ^^^ (s.a &&& s.c) ^^^ (s.b &&& s.c)
  ⟨first + (mixA + majority), s.a, s.b, s.c, s.d + first, s.e, s.f, s.g⟩

/-- Adds two states word by word. -/
def State.add (s t : State) : State :=
  ⟨s.a + t.a, s.b + t.b, s.c + t.c, s.d + t.d, s.e + t.e, s.f + t.f, s.g + t.g, s.h + t.h⟩

/-- The word in four bytes. -/
def wordOf (b0 b1 b2 b3 : UInt8) : UInt32 :=
  (b0.toUInt32 <<< 24) ||| (b1.toUInt32 <<< 16) ||| (b2.toUInt32 <<< 8) ||| b3.toUInt32

/-- The words of a block. -/
def words : Bytes → List UInt32
  | b0 :: b1 :: b2 :: b3 :: rest => wordOf b0 b1 b2 b3 :: words rest
  | _ => []

/-- One more word of the schedule. -/
def extend (w : Array UInt32) : Array UInt32 :=
  let n := w.size
  let x := w.getD (n - 15) 0
  let y := w.getD (n - 2) 0
  let s0 := rotate x 7 ^^^ rotate x 18 ^^^ (x >>> 3)
  let s1 := rotate y 17 ^^^ rotate y 19 ^^^ (y >>> 10)
  w.push (w.getD (n - 16) 0 + s0 + w.getD (n - 7) 0 + s1)

/-- The 64 words that a block is spread over. -/
def schedule (block : Bytes) : Array UInt32 :=
  (List.range 48).foldl (fun w _ => extend w) (words block).toArray

/-- Mixes a block into the state. -/
def State.absorb (s : State) (block : Bytes) : State :=
  s.add (((schedule block).toList.zip roundConstants).foldl State.round s)

/-- A number in eight bytes, the highest first. -/
def eightBytes (n : Nat) : Bytes :=
  [56, 48, 40, 32, 24, 16, 8, 0].map fun shift => UInt8.ofNat (n >>> shift)

/-- A message filled up to whole blocks. -/
def padded (message : Bytes) : Bytes :=
  let zeros := (119 - message.length % 64) % 64
  message ++ 0x80 :: List.replicate zeros 0 ++ eightBytes (message.length * 8)

/-- Mixes all blocks into the state; `fuel` bounds their number. -/
def State.absorbAll : (fuel : Nat) → State → Bytes → State
  | 0, s, _ => s
  | fuel + 1, s, bs =>
    if bs.isEmpty then s else absorbAll fuel (s.absorb (bs.take 64)) (bs.drop 64)

/-- The digest as a state. -/
def digest (message : Bytes) : State :=
  State.start.absorbAll (message.length / 64 + 2) (padded message)

/-- A digit of base sixteen. -/
def hexDigit (n : Nat) : Char := if n < 10 then Char.ofNat (48 + n) else Char.ofNat (87 + n)

/-- A word in eight digits. -/
def hexWord (w : UInt32) : List Char :=
  [28, 24, 20, 16, 12, 8, 4, 0].map fun shift => hexDigit (w.toNat >>> shift % 16)

/-- The digest of a text in 64 digits. -/
def hexDigest (s : String) : String :=
  let d := digest (Text.Utf8.encodeText s)
  String.ofList ([d.a, d.b, d.c, d.d, d.e, d.f, d.g, d.h].flatMap hexWord)

end Stencil.Encoding.Sha256
