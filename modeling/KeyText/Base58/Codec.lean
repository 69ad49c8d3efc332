import KeyText.Base58.Buffer

/-!
# Base58 and Base58Check

Plain Base58 writes any byte string over the 58 symbols; Base58Check appends the first four bytes of a digest before it
encodes, so that a mistyped text is noticed. Here results are values of their own. Decoding takes as much room as the text is
long, which is always enough.
-/

namespace KeyText.Base58

/-- An upper bound for the length of the numeral of so many bytes. A byte is worth a little less than 1.38 symbols. -/
def maxEncodedLength (n : Nat) : Nat :=
  n * 138 / 100 + 1

/-- An upper bound for the number of bytes that so many symbols write. A symbol is worth at most one byte, and a leading zero
symbol is worth exactly one. -/
def maxDecodedLength (n : Nat) : Nat :=
  n

/-- The text that ASCII bytes write. -/
def asciiText (bytes : List UInt8) : String :=
  String.ofList (bytes.map fun b => Char.ofNat b.toNat)

/-- Encodes bytes as Base58. -/
def encode (bytes : List UInt8) : String :=
  asciiText (symbols bytes)

/-- Takes the bytes that an operation answers for out of a buffer with room for a whole text. -/
def withRoomFor (text : List UInt8) (operation : List UInt8 → Buffer.Result) : Except CodecError (List UInt8) :=
  let (answer, buffer) := operation (List.replicate (maxDecodedLength text.length) 0)
  answer.map buffer.take

/-- Decodes Base58, given as the bytes of a text. -/
def decode (text : List UInt8) : Except CodecError (List UInt8) :=
  withRoomFor text (Buffer.decode text)

/-- Encodes a payload followed by its checksum. -/
def encodeChecked (payload : List UInt8) (checksum : Checksum) : String :=
  encode (checksum.append payload)

/-- Decodes Base58Check, given as the bytes of a text, and answers the payload if the checksum matches. -/
def decodeChecked (text : List UInt8) (checksum : Checksum) : Except CodecError (List UInt8) :=
  withRoomFor text (Buffer.decodeChecked text checksum)

end KeyText.Base58
