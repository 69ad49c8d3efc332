import KeyText.Digest.Block

/-!
# SHA-256

The digest of 32 bytes of the Secure Hash Standard. Each block of 64 bytes is expanded to 64 words, and each word turns the
eight words of the state once.
-/

namespace KeyText.Digest.Sha256

/-- The eight words that a block turns. -/
structure State where
  a : UInt32
  b : UInt32
  c : UInt32
  d : UInt32
  e : UInt32
  f : UInt32
  g : UInt32
  h : UInt32

/-- The state before the first block: the first bits of the fractional parts of the square roots of the first eight
primes. -/
def initial : State :=
  ⟨0x6a09e667, 0xbb67ae85, 0x3c6ef372, 0xa54ff53a, 0x510e527f, 0x9b05688c, 0x1f83d9ab, 0x5be0cd19⟩

/-- The round constants: the first bits of the fractional parts of the cube roots of the first 64 primes. -/
def constants : List UInt32 :=
  [0x428a2f98, 0x71374491, 0xb5c0fbcf, 0xe9b5dba5, 0x3956c25b, 0x59f111f1, 0x923f82a4, 0xab1c5ed5,
    0xd807aa98, 0x12835b01, 0x243185be, 0x550c7dc3, 0x72be5d74, 0x80deb1fe, 0x9bdc06a7, 0xc19bf174,
    0xe49b69c1, 0xefbe4786, 0x0fc19dc6, 0x240ca1cc, 0x2de92c6f, 0x4a7484aa, 0x5cb0a9dc, 0x76f988da,
    0x983e5152, 0xa831c66d, 0xb00327c8, 0xbf597fc7, 0xc6e00bf3, 0xd5a79147, 0x06ca6351, 0x14292967,
    0x27b70a85, 0x2e1b2138, 0x4d2c6dfc, 0x53380d13, 0x650a7354, 0x766a0abb, 0x81c2c92e, 0x92722c85,
    0xa2bfe8a1, 0xa81a664b, 0xc24b8b70, 0xc76c51a3, 0xd192e819, 0xd6990624, 0xf40e3585, 0x106aa070,
    0x19a4c116, 0x1e376c08, 0x2748774c, 0x34b0bcb5, 0x391c0cb3, 0x4ed8aa4a, 0x5b9cca4f, 0x682e6ff3,
    0x748f82ee, 0x78a5636f, 0x84c87814, 0x8cc70208, 0x90befffa, 0xa4506ceb, 0xbef9a3f7, 0xc67178f2]

/-- A word with its bits moved down in a circle. -/
def rotateDown (word amount : UInt32) : UInt32 :=
  (word >>> amount) ||| (word <<< (32 - amount))

/-- The schedule with one word more, mixed from words 16, 15, 7 and 2 places back. -/
def extend (schedule : Array UInt32) : Array UInt32 :=
  let back (n : Nat) := schedule.getD (schedule.size - n) 0
  let old := back 15
  let recent := back 2
  let mixedOld := rotateDown old 7 ^^^ rotateDown old 18 ^^^ (old >>> 3)
  let mixedRecent := rotateDown recent 17 ^^^ rotateDown recent 19 ^^^ (recent >>> 10)
  schedule.push (back 16 + mixedOld + back 7 + mixedRecent)

/-- The 64 words of a block: its own 16 and 48 mixed from those before. -/
def schedule (block : List UInt8) : List UInt32 :=
  let own := ((pieces 4 block).map word32BE).toArray
  ((List.range 48).foldl (fun words _ => extend words) own).toList

/-- Turns the state by one word and its round constant. -/
def turn (s : State) (step : UInt32 × UInt32) : State :=
  let mixedE := rotateDown s.e 6 ^^^ rotateDown s.e 11 ^^^ rotateDown s.e 25
  let choice := (s.e &&& s.f) ^^^ (~~~s.e &&& s.g)
  let first := s.h + mixedE + choice + step.1 + step.2
  let mixedA := rotateDown s.a 2 ^^^ rotateDown s.a 13 ^^^ rotateDown s.a 22
  let majority := (s.a &&& s.b) ^^^ (s.a &&& s.c) ^^^ (s.b &&& s.c)
  ⟨first + (mixedA + majority), s.a, s.b, s.c, s.d + first, s.e, s.f, s.g⟩

/-- The state after a block: turned 64 times and added to the state before it. -/
def absorb (s : State) (block : List UInt8) : State :=
  let t := (constants.zip (schedule block)).foldl turn s
  ⟨s.a + t.a, s.b + t.b, s.c + t.c, s.d + t.d, s.e + t.e, s.f + t.f, s.g + t.g, s.h + t.h⟩

/-- The bytes of a state, each word most significant byte first. -/
def State.bytes (s : State) : Vector UInt8 32 :=
  let words : Vector UInt32 8 := #v[s.a, s.b, s.c, s.d, s.e, s.f, s.g, s.h]
  Vector.ofFn fun i => (words[i.val / 4] >>> UInt32.ofNat (8 * (3 - i.val % 4))).toUInt8

end Sha256

/-- The SHA-256 digest of a message. -/
def sha256 (message : List UInt8) : Vector UInt8 32 :=
  let blocks := pieces 64 (padded64 message ++ (bytesLE 8 (8 * message.length)).reverse)
  (blocks.foldl Sha256.absorb Sha256.initial).bytes

end KeyText.Digest
