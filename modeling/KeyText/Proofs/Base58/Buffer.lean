import KeyText.Proofs.Base58.Checked

/-!
# Writing into a caller's buffer

The operations on a buffer answer what the operations with results of their own answer, as far as the buffer has room. A
buffer that is too small is reported with the room that is needed, which is the length of the whole result: for a text with a
checksum, four bytes more than its payload. Where several things are wrong at once, a wrong character is told first, then the
lack of room, then the checksum (`buffer_refines_owned`).
-/

namespace KeyText.Base58.Buffer

/-! ## What an operation does with a buffer -/

/-- An operation with some bytes to write delivers them: it answers their number and puts them at the start of the buffer, or
answers how many they are if there is no room for them. The buffer keeps its size. -/
def Delivers (bytes buffer : List UInt8) (result : Result) : Prop :=
  result.2.length = buffer.length ∧
    if bytes.length ≤ buffer.length then result.1 = .ok bytes.length ∧ result.2.take bytes.length = bytes
    else result.1 = .error (.bufferTooSmall bytes.length buffer.length)

/-- An operation delivers what a text decodes to. A text that does not decode has a wrong character, and that is the answer
for a buffer of any size. -/
def DeliversDecoded (text buffer : List UInt8) (result : Result) : Prop :=
  match Base58.decode text with
  | .ok bytes => Delivers bytes buffer result
  | .error fault => (∃ position character, fault = .invalidCharacter position character) ∧ result.1 = .error fault

/-- An operation delivers the payload that a text decodes to with a checksum. A wrong character comes first, for a buffer of
any size; then comes a lack of room for payload and checksum together, and then a failed checksum. -/
def DeliversPayload (text : List UInt8) (checksum : Checksum) (buffer : List UInt8) (result : Result) : Prop :=
  match Base58.decode text with
  | .error fault => (∃ position character, fault = .invalidCharacter position character) ∧ result.1 = .error fault
  | .ok bytes =>
    if bytes.length ≤ buffer.length then
      match Base58.decodeChecked text checksum with
      | .ok payload =>
        bytes.length = payload.length + 4 ∧ result.1 = .ok payload.length ∧ result.2.take payload.length = payload
      | .error fault => fault = .checksumMismatch ∧ result.1 = .error .checksumMismatch
    else result.1 = .error (.bufferTooSmall bytes.length buffer.length)

/-! ## Writing -/

/-- Bytes at the start of a buffer that has room for them leave it as long as it was. -/
theorem length_append_drop {bytes buffer : List UInt8} (h : bytes.length ≤ buffer.length) :
    (bytes ++ buffer.drop bytes.length).length = buffer.length := by
  rw [List.length_append, List.length_drop, Nat.add_sub_cancel' h]

/-- Writing delivers the bytes. -/
theorem delivers_write (bytes buffer : List UInt8) : Delivers bytes buffer (write bytes buffer) := by
  rw [write, Delivers]
  by_cases hroom : bytes.length ≤ buffer.length
  · rw [if_pos hroom, if_pos hroom]
    exact ⟨length_append_drop hroom, rfl, take_write⟩
  · rw [if_neg hroom, if_neg hroom]
    exact ⟨rfl, rfl⟩

/-- Writing asks for more room exactly where the bytes do not fit, and then for as much as they take. -/
theorem write_eq_bufferTooSmall_iff {bytes buffer : List UInt8} {required capacity : Nat} :
    (write bytes buffer).1 = .error (.bufferTooSmall required capacity) ↔
      buffer.length < bytes.length ∧ required = bytes.length ∧ capacity = buffer.length := by
  rw [write]
  by_cases hroom : bytes.length ≤ buffer.length
  · rw [if_pos hroom]
    constructor
    · intro h
      cases h
    · rintro ⟨hless, -⟩
      exact absurd hroom (Nat.not_le.mpr hless)
  · rw [if_neg hroom]
    constructor
    · intro h
      cases h
      exact ⟨Nat.lt_of_not_le hroom, rfl, rfl⟩
    · rintro ⟨-, rfl, rfl⟩
      rfl

/-! ## The operations -/

/-- Encoding delivers the text. -/
theorem delivers_encode (bytes buffer : List UInt8) :
    Delivers (Utf8.encode (Base58.encode bytes)) buffer (encode bytes buffer) := by
  rw [utf8_encode]
  exact delivers_write (symbols bytes) buffer

/-- Decoding delivers what the text decodes to. -/
theorem deliversDecoded_decode (text buffer : List UInt8) : DeliversDecoded text buffer (decode text buffer) := by
  rw [DeliversDecoded, decode_eq, decode]
  cases readSymbols text with
  | ok bytes => exact delivers_write bytes buffer
  | error position => exact ⟨⟨_, _, rfl⟩, rfl⟩

/-- Decoding with a checksum delivers the payload. -/
theorem deliversPayload_decodeChecked (text : List UInt8) (checksum : Checksum) (buffer : List UInt8) :
    DeliversPayload text checksum buffer (decodeChecked text checksum buffer) := by
  rw [DeliversPayload, decode_eq, decodeChecked_eq, Base58.decodeChecked_eq]
  cases readSymbols text with
  | error position => exact ⟨⟨_, _, rfl⟩, rfl⟩
  | ok bytes =>
    dsimp only
    by_cases hroom : bytes.length ≤ buffer.length
    · rw [if_pos hroom, if_pos hroom]
      cases hstrip : checksum.strip? bytes with
      | none => exact ⟨rfl, rfl⟩
      | some payload =>
        obtain rfl := (checksum.strip?_eq_some_iff bytes payload).mp hstrip
        refine ⟨?_, rfl, ?_⟩
        · rw [Checksum.append, List.length_append, Checksum.length_suffix]
          rfl
        · -- The payload is the first part of what was decoded, so it is at the start of the buffer.
          dsimp only
          rw [Checksum.append, List.append_assoc, List.take_left]
    · rw [if_neg hroom, if_neg hroom]

/-- Each operation on a buffer does what the operation with a result of its own does, for every buffer. -/
theorem buffer_refines_owned (bytes text : List UInt8) (checksum : Checksum) (buffer : List UInt8) :
    Delivers (Utf8.encode (Base58.encode bytes)) buffer (encode bytes buffer) ∧
      Delivers (Utf8.encode (Base58.encodeChecked bytes checksum)) buffer (encodeChecked bytes checksum buffer) ∧
      DeliversDecoded text buffer (decode text buffer) ∧
      DeliversPayload text checksum buffer (decodeChecked text checksum buffer) :=
  ⟨delivers_encode bytes buffer, delivers_encode (checksum.append bytes) buffer, deliversDecoded_decode text buffer,
    deliversPayload_decodeChecked text checksum buffer⟩

end KeyText.Base58.Buffer
