import KeyText.Text.Quoted

/-!
# What can be wrong with a Base58 text or with the room for its bytes
-/

namespace KeyText.Base58

/-- Why an encoding or a decoding failed. -/
inductive CodecError where
  /-- A character outside the alphabet, and the byte at which it begins. -/
  | invalidCharacter (position : Nat) (character : Char)
  /-- The output does not fit the buffer. -/
  | bufferTooSmall (required capacity : Nat)
  /-- The last four bytes are not the checksum of the others, or there are fewer than four. -/
  | checksumMismatch
  deriving DecidableEq, Repr

/-- The wording of an error. -/
def CodecError.message : CodecError → String
  | .invalidCharacter position character => s!"invalid base58 character {Quoted.char character} at position {position}"
  | .bufferTooSmall required capacity => s!"output buffer too small: need {required}, capacity {capacity}"
  | .checksumMismatch => "checksum mismatch"

end KeyText.Base58
