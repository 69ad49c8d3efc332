import KeyText.Digest.Block

/-!
# Keccak-256

The sponge digest of 32 bytes with the padding that Keccak had before it became SHA-3. The state is a square of 25 lanes of
64 bits; a block of 136 bytes is added to its first lanes, and 24 rounds mix them.
-/

namespace KeyText.Digest.Keccak256

/-- The 25 lanes; the lane in column `x` and row `y` has the index `x + 5 * y`. -/
abbrev Lanes := Vector UInt64 25

/-- The lane in a column and a row, both taken modulo five. -/
def lane (lanes : Lanes) (x y : Nat) : UInt64 :=
  lanes[x % 5 + 5 * (y % 5)]

/-- The number of bytes that a block adds. -/
def rate : Nat := 136

/-- How far each lane is rotated. -/
def rotations : Vector UInt64 25 :=
  #v[0, 1, 62, 28, 27, 36, 44, 6, 55, 20, 3, 10, 43, 25, 39, 41, 45, 15, 21, 8, 18, 2, 61, 56, 14]

/-- The words that break the symmetry of the rounds. -/
def roundConstants : List UInt64 :=
  [0x0000000000000001, 0x0000000000008082, 0x800000000000808A, 0x8000000080008000, 0x000000000000808B, 0x0000000080000001,
    0x8000000080008081, 0x8000000000008009, 0x000000000000008A, 0x0000000000000088, 0x0000000080008009, 0x000000008000000A,
    0x000000008000808B, 0x800000000000008B, 0x8000000000008089, 0x8000000000008003, 0x8000000000008002, 0x8000000000000080,
    0x000000000000800A, 0x800000008000000A, 0x8000000080008081, 0x8000000000008080, 0x0000000080000001, 0x8000000080008008]

/-- Adds to every lane the parities of the column before it and of the column after it, the latter rotated. -/
def mixColumns (lanes : Lanes) : Lanes :=
  let parity : Vector UInt64 5 := Vector.ofFn fun x =>
    lane lanes x 0 ^^^ lane lanes x 1 ^^^ lane lanes x 2 ^^^ lane lanes x 3 ^^^ lane lanes x 4
  let change : Vector UInt64 5 := Vector.ofFn fun x =>
    parity[(x.val + 4) % 5] ^^^ rotateUp64 parity[(x.val + 1) % 5] 1
  Vector.ofFn fun i => lanes[i] ^^^ change[i.val % 5]

/-- Rotates every lane by its own amount and moves it to its new place. -/
def spread (lanes : Lanes) : Lanes :=
  let rotated : Lanes := Vector.ofFn fun i => rotateUp64 lanes[i] rotations[i]
  Vector.ofFn fun i => lane rotated (i.val % 5 + 3 * (i.val / 5)) (i.val % 5)

/-- Combines every lane with the next two of its row. -/
def mixRows (lanes : Lanes) : Lanes :=
  Vector.ofFn fun i =>
    let x := i.val % 5
    let y := i.val / 5
    lanes[i] ^^^ (~~~lane lanes (x + 1) y &&& lane lanes (x + 2) y)

/-- One round with its constant, which goes to the first lane. -/
def round (lanes : Lanes) (constant : UInt64) : Lanes :=
  let mixed := mixRows (spread (mixColumns lanes))
  mixed.set 0 (mixed[0] ^^^ constant)

/-- Adds a block to the first lanes and mixes them. -/
def absorb (lanes : Lanes) (block : List UInt8) : Lanes :=
  let words := ((pieces 8 block).map word64LE).toArray
  roundConstants.foldl round (Vector.ofFn fun i => lanes[i] ^^^ words.getD i 0)

/-- A message with a bit behind its end and a bit at the end of its last block. -/
def padded (message : List UInt8) : List UInt8 :=
  let missing := rate - message.length % rate
  if missing = 1 then message ++ [0x81]
  else message ++ 0x01 :: List.replicate (missing - 2) 0 ++ [0x80]

end Keccak256

/-- The Keccak-256 digest of a message. -/
def keccak256 (message : List UInt8) : Vector UInt8 32 :=
  let lanes := (pieces Keccak256.rate (Keccak256.padded message)).foldl Keccak256.absorb (Vector.replicate 25 0)
  Vector.ofFn fun i => (lanes[i.val / 8] >>> UInt64.ofNat (8 * (i.val % 8))).toUInt8

end KeyText.Digest
