import KeyText.Proofs.Base58.Texts

/-!
# The room that a result needs

The lengths that are told before a text or a byte string is known are true bounds. A byte is worth fewer than 1.38 symbols, as
`256 ^ 100` is at most `58 ^ 138`, and a leading zero byte is one symbol; so a text is never longer than `maxEncodedLength`
tells, for byte strings of every length and with any number of leading zeros (`length_symbols_le`). A symbol is worth less than
a byte, so decoding into as many bytes as there are symbols never lacks room (`room_suffices`).
-/

namespace KeyText.Base58

/-- A numeral is not longer than is told from the number of bytes. -/
theorem length_symbols_le (bytes : List UInt8) : (symbols bytes).length ≤ maxEncodedLength bytes.length := by
  have hworth : 256 ^ 100 ≤ 58 ^ 138 := by
    decide +kernel
  have hlength := length_reradix_le_mul_div (by decide) (by decide) (by decide) (by decide) hworth
    fun d (hd : d ∈ bytes.map UInt8.toNat) => Radix.lt_of_mem_map_toNat hd
  rw [List.length_map] at hlength
  rw [symbols_eq_map_reradix, List.length_map]
  exact hlength

/-- A buffer with the room that is told takes the text of a byte string. -/
theorem Buffer.encode_eq_ok {bytes buffer : List UInt8} (h : maxEncodedLength bytes.length ≤ buffer.length) :
    (Buffer.encode bytes buffer).1 = .ok (Base58.encode bytes).length := by
  have hroom := Nat.le_trans (length_symbols_le bytes) h
  rw [Buffer.encode, Buffer.write, if_pos hroom, length_encode]

/-- The lengths that are told beforehand are enough. A text is not longer than 138 hundredths of the number of its bytes,
rounded down, and one; so encoding into a buffer of that size succeeds, and with a checksum encoding into a buffer of the size
for four bytes more. A text over the alphabet decodes to no more bytes than it has symbols; so no text at all, with a checksum
or without, is refused for a lack of room. -/
theorem room_suffices (bytes text : List UInt8) (checksum : Checksum) :
    (encode bytes).length ≤ maxEncodedLength bytes.length ∧
      maxEncodedLength bytes.length = 138 * bytes.length / 100 + 1 ∧
      (∀ buffer, maxEncodedLength bytes.length ≤ buffer.length →
        (Buffer.encode bytes buffer).1 = .ok (encode bytes).length) ∧
      (∀ buffer, maxEncodedLength (bytes.length + 4) ≤ buffer.length →
        (Buffer.encodeChecked bytes checksum buffer).1 = .ok (encodeChecked bytes checksum).length) ∧
      ((∀ byte ∈ text, byte ∈ codes) → ∃ decoded, decode text = .ok decoded ∧
        decoded.length ≤ maxDecodedLength text.length ∧ maxDecodedLength text.length = text.length) ∧
      ∀ required capacity, decode text ≠ .error (.bufferTooSmall required capacity) ∧
        decodeChecked text checksum ≠ .error (.bufferTooSmall required capacity) := by
  have happend : (checksum.append bytes).length = bytes.length + 4 := by
    rw [Checksum.append, List.length_append, Checksum.length_suffix]
    rfl
  refine ⟨?_, ?_, fun buffer hroom => Buffer.encode_eq_ok hroom, fun buffer hroom => ?_, fun hcodes => ?_,
    fun required capacity => ⟨decode_ne_bufferTooSmall text required capacity,
      decodeChecked_ne_bufferTooSmall text checksum required capacity⟩⟩
  · rw [length_encode]
    exact length_symbols_le bytes
  · rw [maxEncodedLength, Nat.mul_comm]
  · rw [← happend] at hroom
    exact Buffer.encode_eq_ok hroom
  · obtain ⟨decoded, hread, -, hle⟩ := readSymbols_of_mem_codes hcodes
    exact ⟨decoded, decode_eq_ok_iff_readSymbols.mpr hread, hle, rfl⟩

/-- Byte strings whose texts fill the room that is told: a byte of ones, and four of them as the checksum of nothing. -/
theorem room_suffices_without_spare :
    (maxEncodedLength [255].length ≤ [7, 7].length ∧ (Buffer.encode [255] [7, 7]).1 = .ok 2) ∧
      (maxEncodedLength (([] : List UInt8).length + 4) ≤ [7, 7, 7, 7, 7, 7].length ∧
        (Buffer.encodeChecked [] ⟨fun _ => Vector.replicate 32 255⟩ [7, 7, 7, 7, 7, 7]).1 = .ok 6) ∧
      (∀ byte ∈ Utf8.encode "5Q", byte ∈ codes) ∧
      ∃ decoded, decode (Utf8.encode "5Q") = .ok decoded ∧ decoded.length ≤ maxDecodedLength 2 := by
  have hone : encode [255] = "5Q" := by
    rw [← decode_utf8_eq_ok_iff, decode_eq_ok_iff_readSymbols]
    decide +kernel
  have hfour : encodeChecked [] ⟨fun _ => Vector.replicate 32 255⟩ = "7YXq9G" := by
    rw [← decodeChecked_utf8_eq_ok_iff, decodeChecked_eq_ok_iff_readSymbols]
    decide +kernel
  have hcodes : ∀ byte ∈ Utf8.encode "5Q", byte ∈ codes := by
    decide +kernel
  obtain ⟨-, -, hencode, -, hdecode, -⟩ := room_suffices [255] (Utf8.encode "5Q") ⟨fun _ => Vector.replicate 32 255⟩
  obtain ⟨-, -, -, hchecked, -, -⟩ := room_suffices [] [] ⟨fun _ => Vector.replicate 32 255⟩
  have hroom := hencode [7, 7] (by decide)
  have hroom' := hchecked [7, 7, 7, 7, 7, 7] (by decide)
  rw [hone] at hroom
  rw [hfour] at hroom'
  obtain ⟨decoded, hread, hle, -⟩ := hdecode hcodes
  exact ⟨⟨by decide, hroom⟩, ⟨by decide, hroom'⟩, hcodes, decoded, hread, hle⟩

end KeyText.Base58
