import KeyText.Digest.Block

/-!
# RIPEMD-160

A digest of 20 bytes. Each block of 64 bytes turns two copies of the five words of the state 80 times, each copy with an
order, rotations and constants of its own, and the two are then added crosswise.
-/

namespace KeyText.Digest.Ripemd160

/-- The five words that a block turns. -/
structure State where
  a : UInt32
  b : UInt32
  c : UInt32
  d : UInt32
  e : UInt32

/-- The state before the first block. -/
def initial : State :=
  ⟨0x67452301, 0xefcdab89, 0x98badcfe, 0x10325476, 0xc3d2e1f0⟩

/-- The functions that mix three words, one for each group of sixteen turns. -/
def mix : Nat → UInt32 → UInt32 → UInt32 → UInt32
  | 0, x, y, z => x ^^^ y ^^^ z
  | 1, x, y, z => (x &&& y) ||| (~~~x &&& z)
  | 2, x, y, z => (x ||| ~~~y) ^^^ z
  | 3, x, y, z => (x &&& z) ||| (y &&& ~~~z)
  | _, x, y, z => x ^^^ (y ||| ~~~z)

/-- One turn: the group whose function it uses, the constant, the word of the block, and the rotation. -/
structure Turn where
  group : Nat
  constant : UInt32
  word : Nat
  rotation : UInt32

/-- The turns of a line, from the function and the constant of each group, and the word and the rotation of each turn. -/
def turns (groups : List Nat) (constants : List UInt32) (words : List Nat) (rotations : List UInt32) : List Turn :=
  let perTurn := (groups.zip constants).flatMap (List.replicate 16)
  (perTurn.zip (words.zip rotations)).map fun ((group, constant), (word, rotation)) => ⟨group, constant, word, rotation⟩

/-- The turns of the left line. -/
def leftTurns : List Turn :=
  turns [0, 1, 2, 3, 4] [0x00000000, 0x5a827999, 0x6ed9eba1, 0x8f1bbcdc, 0xa953fd4e]
    [0, 1, 2, 3, 4, 5, 6, 7, 8, 9, 10, 11, 12, 13, 14, 15,
      7, 4, 13, 1, 10, 6, 15, 3, 12, 0, 9, 5, 2, 14, 11, 8,
      3, 10, 14, 4, 9, 15, 8, 1, 2, 7, 0, 6, 13, 11, 5, 12,
      1, 9, 11, 10, 0, 8, 12, 4, 13, 3, 7, 15, 14, 5, 6, 2,
      4, 0, 5, 9, 7, 12, 2, 10, 14, 1, 3, 8, 11, 6, 15, 13]
    [11, 14, 15, 12, 5, 8, 7, 9, 11, 13, 14, 15, 6, 7, 9, 8,
      7, 6, 8, 13, 11, 9, 7, 15, 7, 12, 15, 9, 11, 7, 13, 12,
      11, 13, 6, 7, 14, 9, 13, 15, 14, 8, 13, 6, 5, 12, 7, 5,
      11, 12, 14, 15, 14, 15, 9, 8, 9, 14, 5, 6, 8, 6, 5, 12,
      9, 15, 5, 11, 6, 8, 13, 12, 5, 12, 13, 14, 11, 8, 5, 6]

/-- The turns of the right line. -/
def rightTurns : List Turn :=
  turns [4, 3, 2, 1, 0] [0x50a28be6, 0x5c4dd124, 0x6d703ef3, 0x7a6d76e9, 0x00000000]
    [5, 14, 7, 0, 9, 2, 11, 4, 13, 6, 15, 8, 1, 10, 3, 12,
      6, 11, 3, 7, 0, 13, 5, 10, 14, 15, 8, 12, 4, 9, 1, 2,
      15, 5, 1, 3, 7, 14, 6, 9, 11, 8, 12, 2, 10, 0, 4, 13,
      8, 6, 4, 1, 3, 11, 15, 0, 5, 12, 2, 13, 9, 7, 10, 14,
      12, 15, 10, 4, 1, 5, 8, 7, 6, 2, 13, 14, 0, 3, 9, 11]
    [8, 9, 9, 11, 13, 15, 15, 5, 7, 7, 8, 11, 14, 14, 12, 6,
      9, 13, 15, 7, 12, 8, 9, 11, 7, 7, 12, 7, 6, 15, 13, 11,
      9, 7, 15, 11, 8, 6, 6, 14, 12, 13, 5, 14, 13, 13, 7, 5,
      15, 5, 8, 11, 14, 14, 6, 14, 6, 9, 12, 9, 12, 5, 15, 8,
      8, 5, 12, 9, 12, 5, 14, 6, 8, 13, 6, 5, 15, 13, 11, 11]

/-- Turns the state once. -/
def turn (words : Array UInt32) (s : State) (t : Turn) : State :=
  let sum := s.a + mix t.group s.b s.c s.d + words.getD t.word 0 + t.constant
  ⟨s.e, rotateUp32 sum t.rotation + s.e, s.b, rotateUp32 s.c 10, s.d⟩

/-- The state after a block: both lines turned, and added crosswise to the state before it. -/
def absorb (s : State) (block : List UInt8) : State :=
  let words := ((pieces 4 block).map word32LE).toArray
  let left := leftTurns.foldl (turn words) s
  let right := rightTurns.foldl (turn words) s
  ⟨s.b + left.c + right.d, s.c + left.d + right.e, s.d + left.e + right.a, s.e + left.a + right.b, s.a + left.b + right.c⟩

/-- The bytes of a state, each word least significant byte first. -/
def State.bytes (s : State) : Vector UInt8 20 :=
  let words : Vector UInt32 5 := #v[s.a, s.b, s.c, s.d, s.e]
  Vector.ofFn fun i => (words[i.val / 4] >>> UInt32.ofNat (8 * (i.val % 4))).toUInt8

end Ripemd160

/-- The RIPEMD-160 digest of a message. -/
def ripemd160 (message : List UInt8) : Vector UInt8 20 :=
  let blocks := pieces 64 (padded64 message ++ bytesLE 8 (8 * message.length))
  (blocks.foldl Ripemd160.absorb Ripemd160.initial).bytes

end KeyText.Digest
