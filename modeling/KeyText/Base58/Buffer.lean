import KeyText.Base58.Error
import KeyText.Base58.Numeral
import KeyText.Text.Utf8
import KeyText.Checksum

/-!
# Encoding and decoding into a buffer

The four operations on a buffer that the caller owns. A buffer is its bytes, and its capacity is their number. An operation
answers how many bytes it wrote at the start of the buffer, or why it failed, and gives the buffer back. Its answer depends
on what it was asked to write and on the capacity, not on what the buffer held; a failure leaves the buffer as it was, except
that the bytes of a failed checksum stay in it.
-/

namespace KeyText.Base58.Buffer

/-- What an operation answers, and the buffer after it. -/
abbrev Result := Except CodecError Nat × List UInt8

/-- Writes bytes at the start of a buffer that has room for them. -/
def write (bytes buffer : List UInt8) : Result :=
  if bytes.length ≤ buffer.length then (.ok bytes.length, bytes ++ buffer.drop bytes.length)
  else (.error (.bufferTooSmall bytes.length buffer.length), buffer)

/-- The error for the first byte that is no symbol: it names the whole character that begins there. -/
def invalidAt (text : List UInt8) (position : Nat) : CodecError :=
  .invalidCharacter position (Utf8.charAtHead (text.drop position))

/-- Encodes bytes as ASCII symbols. -/
def encode (bytes buffer : List UInt8) : Result :=
  write (symbols bytes) buffer

/-- Decodes symbols. A byte that is no symbol is reported before a lack of room. -/
def decode (text buffer : List UInt8) : Result :=
  match readSymbols text with
  | .ok bytes => write bytes buffer
  | .error position => (.error (invalidAt text position), buffer)

/-- Encodes a payload followed by its checksum. -/
def encodeChecked (payload : List UInt8) (checksum : Checksum) (buffer : List UInt8) : Result :=
  encode (checksum.append payload) buffer

/-- Decodes symbols and compares the last four of the bytes now in the buffer with the checksum of the others. The answer
counts the payload alone, but payload and checksum both stay in the buffer, whether they match or not. -/
def decodeChecked (text : List UInt8) (checksum : Checksum) (buffer : List UInt8) : Result :=
  match decode text buffer with
  | (.error e, buffer) => (.error e, buffer)
  | (.ok length, buffer) =>
    if length < Checksum.size then (.error .checksumMismatch, buffer)
    else
      let decoded := buffer.take length
      let payload := decoded.take (length - Checksum.size)
      if checksum.suffix payload = decoded.drop (length - Checksum.size) then (.ok (length - Checksum.size), buffer)
      else (.error .checksumMismatch, buffer)

/-- One of the four operations with what it is asked to write. -/
inductive Call where
  | encode (bytes : List UInt8)
  | decode (text : List UInt8)
  | encodeChecked (payload : List UInt8) (checksum : Checksum)
  | decodeChecked (text : List UInt8) (checksum : Checksum)

/-- Performs a call on a whole buffer. -/
def Call.run : Call → List UInt8 → Result
  | .encode bytes => Buffer.encode bytes
  | .decode text => Buffer.decode text
  | .encodeChecked payload checksum => Buffer.encodeChecked payload checksum
  | .decodeChecked text checksum => Buffer.decodeChecked text checksum

/-- Performs a call on the first bytes of a buffer, as many as the capacity says or the buffer has; the others stay. -/
def Call.runWithin (call : Call) (capacity : Nat) (buffer : List UInt8) : Result :=
  let (answer, written) := call.run (buffer.take capacity)
  (answer, written ++ buffer.drop capacity)

/-- Performs calls one after the other on one buffer, each within its own capacity: the answers in order, and the buffer at
the end. -/
def runAll : List (Call × Nat) → List UInt8 → List (Except CodecError Nat) × List UInt8
  | [], buffer => ([], buffer)
  | (call, capacity) :: calls, buffer =>
    let (answer, buffer) := call.runWithin capacity buffer
    let (answers, buffer) := runAll calls buffer
    (answer :: answers, buffer)

end KeyText.Base58.Buffer
