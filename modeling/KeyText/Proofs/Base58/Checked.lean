import KeyText.Proofs.Base58.Codec

/-!
# Base58Check accepts exactly its own encodings

`Checksum.strip?` undoes `Checksum.append`: it takes the checksum off a byte string that ends with the checksum of the rest.
Decoding Base58Check is reading the numeral and then stripping the checksum (`decodeChecked_eq`), whatever the buffer held
before (`Buffer.decodeChecked_eq`). So the texts that decode to a payload are the encodings of that payload, and each of the
two faults that a text can have is reported exactly where it is one (`decodeChecked_characterization`).
-/

namespace KeyText

/-! ## Taking a checksum off -/

/-- The payload of bytes that end with its checksum. -/
def Checksum.strip? (checksum : Checksum) (bytes : List UInt8) : Option (List UInt8) :=
  let payload := bytes.take (bytes.length - size)
  if size ≤ bytes.length ∧ checksum.suffix payload = bytes.drop (bytes.length - size) then some payload else none

/-- The checksum comes off exactly those bytes that it was appended to. -/
theorem Checksum.strip?_eq_some_iff (checksum : Checksum) (bytes payload : List UInt8) :
    checksum.strip? bytes = some payload ↔ bytes = checksum.append payload := by
  unfold strip?
  constructor
  · intro h
    simp only [Option.ite_none_right_eq_some, Option.some.injEq] at h
    obtain ⟨⟨-, hsuffix⟩, rfl⟩ := h
    rw [append, hsuffix, List.take_append_drop]
  · rintro rfl
    have hlength : (checksum.append payload).length - size = payload.length := by
      rw [append, List.length_append, length_suffix, Nat.add_sub_cancel]
    have hsize : size ≤ (checksum.append payload).length := by
      rw [append, List.length_append, length_suffix]
      exact Nat.le_add_left _ _
    simp only [hlength]
    rw [append, List.take_left, List.drop_left, if_pos ⟨hsize, rfl⟩]

/-- No checksum comes off bytes that are fewer than a checksum has, or whose last ones are not the checksum of the others. -/
theorem Checksum.strip?_eq_none_iff (checksum : Checksum) (bytes : List UInt8) :
    checksum.strip? bytes = none ↔ bytes.length < size ∨
      bytes.drop (bytes.length - size) ≠ checksum.suffix (bytes.take (bytes.length - size)) := by
  unfold strip?
  rw [ite_eq_right_iff]
  simp only [reduceCtorEq, imp_false, not_and_or, Nat.not_le, ne_comm]

namespace Base58

/-! ## Decoding into a buffer -/

/-- What stays in a buffer at its start: the bytes written. -/
theorem Buffer.take_write {bytes buffer : List UInt8} : (bytes ++ buffer.drop bytes.length).take bytes.length = bytes :=
  List.take_left

/-- Decoding Base58Check into a buffer: the numeral is read and written at the start of the buffer, and the checksum is taken
off what was read, not off what the buffer held before. -/
theorem Buffer.decodeChecked_eq (text : List UInt8) (checksum : Checksum) (buffer : List UInt8) :
    Buffer.decodeChecked text checksum buffer = match readSymbols text with
      | .error position => (.error (invalidAt text position), buffer)
      | .ok bytes =>
        if bytes.length ≤ buffer.length then
          (match checksum.strip? bytes with
            | some payload => .ok payload.length
            | none => .error .checksumMismatch, bytes ++ buffer.drop bytes.length)
        else (.error (.bufferTooSmall bytes.length buffer.length), buffer) := by
  rw [Buffer.decodeChecked, Buffer.decode]
  cases readSymbols text with
  | error position => rfl
  | ok bytes =>
    by_cases hroom : bytes.length ≤ buffer.length
    · simp only [Buffer.write, if_pos hroom, Buffer.take_write, Checksum.strip?]
      by_cases hshort : bytes.length < Checksum.size
      · rw [if_pos hshort, if_neg fun h => absurd h.1 (Nat.not_le.mpr hshort)]
      · rw [if_neg hshort]
        by_cases hsuffix : checksum.suffix (bytes.take (bytes.length - Checksum.size)) =
            bytes.drop (bytes.length - Checksum.size)
        · rw [if_pos hsuffix, if_pos ⟨Nat.le_of_not_lt hshort, hsuffix⟩]
          simp only [List.length_take, Nat.min_eq_left (Nat.sub_le _ _)]
        · rw [if_neg hsuffix, if_neg fun h => hsuffix h.2]
    · simp only [Buffer.write, if_neg hroom]

/-! ## Decoding to a value -/

/-- Decoding Base58Check reads the numeral and takes the checksum off. -/
theorem decodeChecked_eq (text : List UInt8) (checksum : Checksum) :
    decodeChecked text checksum = match readSymbols text with
      | .error position => .error (Buffer.invalidAt text position)
      | .ok bytes => match checksum.strip? bytes with
        | some payload => .ok payload
        | none => .error .checksumMismatch := by
  rw [decodeChecked, withRoomFor, Buffer.decodeChecked_eq]
  cases h : readSymbols text with
  | error position => rfl
  | ok bytes =>
    have hroom : bytes.length ≤ (List.replicate (maxDecodedLength text.length) (0 : UInt8)).length := by
      rw [List.length_replicate]
      exact length_le_of_readSymbols h
    simp only [if_pos hroom]
    cases hstrip : checksum.strip? bytes with
    | none => rfl
    | some payload =>
      -- The payload is the first part of what was decoded, so it is at the start of the buffer.
      have hbytes := (checksum.strip?_eq_some_iff bytes payload).mp hstrip
      simp only [Except.map]
      rw [hbytes, Checksum.append, List.append_assoc, List.take_left]

/-- A text decodes to a payload exactly when its symbols read as the payload with its checksum. -/
theorem decodeChecked_eq_ok_iff_readSymbols {text payload : List UInt8} {checksum : Checksum} :
    decodeChecked text checksum = .ok payload ↔ readSymbols text = .ok (checksum.append payload) := by
  rw [decodeChecked_eq]
  cases readSymbols text with
  | error position => simp
  | ok bytes =>
    rw [Except.ok.injEq, ← checksum.strip?_eq_some_iff]
    dsimp only
    cases checksum.strip? bytes with
    | none => simp
    | some payload' => simp

/-- A text decodes to a payload exactly when its numeral is that of the payload with its checksum. -/
theorem decodeChecked_eq_ok_iff_symbols {text payload : List UInt8} {checksum : Checksum} :
    decodeChecked text checksum = .ok payload ↔ symbols (checksum.append payload) = text :=
  decodeChecked_eq_ok_iff_readSymbols.trans readSymbols_eq_ok_iff

/-- Only texts of symbols are accepted. -/
theorem mem_codes_of_decodeChecked {text payload : List UInt8} {checksum : Checksum}
    (h : decodeChecked text checksum = .ok payload) : ∀ byte ∈ text, byte ∈ codes := by
  rw [decodeChecked_eq_ok_iff_symbols] at h
  subst h
  exact fun _ => mem_codes_of_mem_symbols

/-- An accepted text is at least as long as what it decodes to and a checksum. -/
theorem length_le_of_decodeChecked {text payload : List UInt8} {checksum : Checksum}
    (h : decodeChecked text checksum = .ok payload) : payload.length + Checksum.size ≤ text.length := by
  have hle := length_le_of_readSymbols (decodeChecked_eq_ok_iff_readSymbols.mp h)
  rwa [Checksum.append, List.length_append, Checksum.length_suffix] at hle

/-- A wrong character is reported exactly when the numeral cannot be read. -/
theorem decodeChecked_eq_invalidCharacter_iff {text : List UInt8} {checksum : Checksum} :
    (∃ position character, decodeChecked text checksum = .error (.invalidCharacter position character)) ↔
      ∃ byte ∈ text, byte ∉ codes := by
  have hread := exists_readSymbols_eq_ok_iff text
  rw [decodeChecked_eq]
  cases h : readSymbols text with
  | error position =>
    rw [h] at hread
    simpa [Buffer.invalidAt] using hread
  | ok bytes =>
    have hall := hread.mp ⟨bytes, h⟩
    dsimp only
    cases checksum.strip? bytes with
    | none => simpa using hall
    | some payload => simpa using hall

/-- A failed checksum is reported exactly when the bytes that are read end with no checksum of the rest. -/
theorem decodeChecked_eq_checksumMismatch_iff {text : List UInt8} {checksum : Checksum} :
    decodeChecked text checksum = .error .checksumMismatch ↔
      ∃ bytes, readSymbols text = .ok bytes ∧ checksum.strip? bytes = none := by
  rw [decodeChecked_eq]
  cases readSymbols text with
  | error position => simp [Buffer.invalidAt]
  | ok bytes =>
    simp only [Except.ok.injEq, exists_eq_left']
    cases checksum.strip? bytes with
    | none => simp
    | some payload => simp

/-- Decoding Base58Check never lacks room. -/
theorem decodeChecked_ne_bufferTooSmall (text : List UInt8) (checksum : Checksum) (required capacity : Nat) :
    decodeChecked text checksum ≠ .error (.bufferTooSmall required capacity) := by
  intro h
  rw [decodeChecked_eq] at h
  split at h
  · cases h
  · split at h <;> cases h

/-- Base58Check accepts exactly its own encodings, under every strategy: a text decodes to a payload when it is the text of
that payload. Of all other texts, those with a byte outside the alphabet are reported for such a byte, and the rest for their
checksum: they write fewer than four bytes, or their last four bytes are not the first four of the digest of the others. There
is always room for the decoded bytes. -/
theorem decodeChecked_characterization (checksum : Checksum) (text : List UInt8) :
    (∀ payload, decodeChecked text checksum = .ok payload ↔ text = Utf8.encode (encodeChecked payload checksum)) ∧
      ((∃ position character, decodeChecked text checksum = .error (.invalidCharacter position character)) ↔
        ∃ byte ∈ text, byte ∉ codes) ∧
      (decodeChecked text checksum = .error .checksumMismatch ↔
        ∃ bytes, decode text = .ok bytes ∧ (bytes.length < 4 ∨
          bytes.drop (bytes.length - 4) ≠ (checksum.digest (bytes.take (bytes.length - 4))).toList.take 4)) ∧
      ∀ required capacity, decodeChecked text checksum ≠ .error (.bufferTooSmall required capacity) := by
  refine ⟨fun payload => ?_, decodeChecked_eq_invalidCharacter_iff, ?_, decodeChecked_ne_bufferTooSmall text checksum⟩
  · rw [encodeChecked, utf8_encode, decodeChecked_eq_ok_iff_symbols, eq_comm]
  · rw [decodeChecked_eq_checksumMismatch_iff]
    refine exists_congr fun bytes => ?_
    rw [decode_eq_ok_iff_readSymbols, checksum.strip?_eq_none_iff]
    rfl

end Base58

end KeyText
