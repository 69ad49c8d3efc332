/-!
# Messages in blocks

What the digests have in common before they mix anything: a message is padded to whole blocks, cut into them, and read as
words of a byte order of its own.
-/

namespace KeyText.Digest

/-- Cuts a list into pieces of a length; the last piece may be shorter. -/
def pieces {α : Type} (length : Nat) (xs : List α) : List (List α) :=
  if _h : length = 0 ∨ xs = [] then [] else xs.take length :: pieces length (xs.drop length)
termination_by xs.length
decreasing_by
  have : xs.length ≠ 0 := fun z => _h (Or.inr (List.eq_nil_of_length_eq_zero z))
  simp only [List.length_drop]
  omega

/-- The word of 32 bits that bytes write, most significant first. -/
def word32BE (bytes : List UInt8) : UInt32 :=
  bytes.foldl (fun word b => (word <<< 8) ||| b.toUInt32) 0

/-- The word of 32 bits that bytes write, least significant first. -/
def word32LE (bytes : List UInt8) : UInt32 :=
  bytes.foldr (fun b word => (word <<< 8) ||| b.toUInt32) 0

/-- The word of 64 bits that bytes write, least significant first. -/
def word64LE (bytes : List UInt8) : UInt64 :=
  bytes.foldr (fun b word => (word <<< 8) ||| b.toUInt64) 0

/-- The given number of bytes of a number, least significant first. -/
def bytesLE (count n : Nat) : List UInt8 :=
  (List.range count).map fun i => UInt8.ofNat (n >>> (8 * i))

/-- A word with its bits moved up in a circle. -/
def rotateUp32 (word amount : UInt32) : UInt32 :=
  (word <<< amount) ||| (word >>> (32 - amount))

/-- A word with its bits moved up in a circle. -/
def rotateUp64 (word amount : UInt64) : UInt64 :=
  if amount = 0 then word else (word <<< amount) ||| (word >>> (64 - amount))

/-- A message with a bit behind its end and as many zero bytes as leave eight bytes of its last block of 64 for its length
in bits. -/
def padded64 (message : List UInt8) : List UInt8 :=
  message ++ 0x80 :: List.replicate ((119 - message.length % 64) % 64) 0

end KeyText.Digest
