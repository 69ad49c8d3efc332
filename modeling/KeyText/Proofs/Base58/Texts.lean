import KeyText.Proofs.Base58.Checked
import KeyText.Text.Blank

/-!
# Texts that decode

Decoding is told in bytes; here it is told in texts. A text decodes to a byte string exactly when it is what that byte string
encodes to, with a checksum and without (`decode_utf8_eq_ok_iff`, `decodeChecked_utf8_eq_ok_iff`), so no two byte strings have
the same text. No text of a byte string holds white space.
-/

namespace KeyText.Base58

variable {bytes bytes' : List UInt8} {text : String} {checksum : Checksum}

/-- A text decodes to a byte string exactly when it is the text of that byte string. -/
theorem decode_utf8_eq_ok_iff : decode (Utf8.encode text) = .ok bytes ↔ encode bytes = text := by
  rw [decode_eq_ok_iff_readSymbols, readSymbols_eq_ok_iff, ← utf8_encode, Utf8.encode_inj]

/-- A text decodes to a payload exactly when it is the text of that payload with its checksum. -/
theorem decodeChecked_utf8_eq_ok_iff :
    decodeChecked (Utf8.encode text) checksum = .ok bytes ↔ encodeChecked bytes checksum = text := by
  rw [decodeChecked_eq_ok_iff_symbols, ← utf8_encode, Utf8.encode_inj, encodeChecked]

/-- Payloads with the same text are the same. -/
theorem encodeChecked_inj : encodeChecked bytes checksum = encodeChecked bytes' checksum ↔ bytes = bytes' := by
  rw [← decodeChecked_utf8_eq_ok_iff, decodeChecked_utf8_eq_ok_iff.mpr rfl, Except.ok.injEq, eq_comm]

/-- No symbol is white space. -/
theorem not_isBlank_of_mem_codes {byte : UInt8} (h : byte ∈ codes) : ¬isBlank (Char.ofNat byte.toNat) := by
  have hall : ∀ b ∈ codes.toList, ¬isBlank (Char.ofNat b.toNat) := by
    decide +kernel
  exact hall byte (Vector.mem_toList_iff.mpr h)

/-- The text of a byte string holds no white space. -/
theorem not_isBlank_of_mem_encode {c : Char} (h : c ∈ (encode bytes).toList) : ¬isBlank c := by
  rw [encode, asciiText, String.toList_ofList] at h
  obtain ⟨byte, hbyte, rfl⟩ := List.mem_map.mp h
  exact not_isBlank_of_mem_codes (mem_codes_of_mem_symbols hbyte)

end KeyText.Base58
