import KeyText.Base58.Codec
import KeyText.Proofs.Base58.Numeral
import KeyText.Proofs.Text.Utf8

/-!
# Base58 is a bijection

Every byte string has one text, every text over the alphabet is the text of one byte string, and all other texts are refused
(`decode_encode_bijection`). The numerals of both directions are one conversion of digit strings, and that conversion has an
inverse; what is left is that decoding always has the room that it needs.
-/

namespace KeyText.Base58

/-! ## Numerals -/

/-- A digit string of bytes, as bytes again. -/
theorem map_toNat_map_ofNat {ds : List Nat} (h : ∀ d ∈ ds, d < 256) : (ds.map UInt8.ofNat).map UInt8.toNat = ds := by
  rw [List.map_map]
  conv_rhs => rw [← List.map_id ds]
  apply List.map_congr_left
  intro d hd
  exact UInt8.toNat_ofNat_of_lt' (h d hd)

/-- A numeral that was written is read as the byte string that it was written for. -/
theorem readSymbols_symbols (bytes : List UInt8) : readSymbols (symbols bytes) = .ok bytes := by
  rw [symbols_eq_map_reradix, readSymbols_map_symbolOf (fun d hd => lt_of_mem_reradix (by decide) hd),
    reradix_reradix (by decide) (fun d hd => Radix.lt_of_mem_map_toNat hd), List.map_map]
  simp [Function.comp_def]

/-- The bytes of a numeral are symbols. -/
theorem mem_codes_of_mem_symbols {bytes : List UInt8} {byte : UInt8} (h : byte ∈ symbols bytes) : byte ∈ codes := by
  rw [symbols_eq_map_reradix] at h
  obtain ⟨d, hd, rfl⟩ := List.mem_map.mp h
  exact symbolOf_mem_codes (lt_of_mem_reradix (by decide) hd)

/-- A text of symbols is read, as bytes that are not more than the symbols, and it is the numeral of those bytes. -/
theorem readSymbols_of_mem_codes {text : List UInt8} (h : ∀ byte ∈ text, byte ∈ codes) :
    ∃ bytes, readSymbols text = .ok bytes ∧ symbols bytes = text ∧ bytes.length ≤ text.length := by
  obtain ⟨ds, hlt, rfl⟩ := exists_map_symbolOf h
  refine ⟨_, readSymbols_map_symbolOf hlt, ?_, ?_⟩
  · have hbytes : ∀ d ∈ reradix 58 256 ds, d < 256 := fun d hd => lt_of_mem_reradix (by decide) hd
    rw [symbols_eq_map_reradix, map_toNat_map_ofNat hbytes, reradix_reradix (by decide) hlt]
  · rw [List.length_map, List.length_map]
    exact length_reradix_le (by decide) (by decide) hlt

/-- Only texts of symbols are read. -/
theorem mem_codes_of_readSymbols {text bytes : List UInt8} (h : readSymbols text = .ok bytes) :
    ∀ byte ∈ text, byte ∈ codes := by
  intro byte hbyte
  by_contra hno
  have hsome : (text.findIdx? fun b => (digit? b).isNone).isSome := by
    rw [List.findIdx?_isSome, List.any_eq_true]
    exact ⟨byte, hbyte, digit?_isNone_iff.mpr hno⟩
  obtain ⟨p, hp⟩ := Option.isSome_iff_exists.mp hsome
  rw [(readSymbols_eq_error_iff text p).mpr hp] at h
  cases h

/-- A text is read as a byte string exactly when it is the numeral of that byte string. -/
theorem readSymbols_eq_ok_iff {text bytes : List UInt8} : readSymbols text = .ok bytes ↔ symbols bytes = text := by
  constructor
  · intro h
    obtain ⟨bytes', hread, hsymbols, -⟩ := readSymbols_of_mem_codes (mem_codes_of_readSymbols h)
    rw [h] at hread
    cases hread
    exact hsymbols
  · rintro rfl
    exact readSymbols_symbols bytes

/-- A text is read exactly when all its bytes are symbols. -/
theorem exists_readSymbols_eq_ok_iff (text : List UInt8) :
    (∃ bytes, readSymbols text = .ok bytes) ↔ ∀ byte ∈ text, byte ∈ codes := by
  constructor
  · rintro ⟨bytes, h⟩
    exact mem_codes_of_readSymbols h
  · intro h
    obtain ⟨bytes, hread, -⟩ := readSymbols_of_mem_codes h
    exact ⟨bytes, hread⟩

/-- The bytes that a text is read as are not more than its symbols. -/
theorem length_le_of_readSymbols {text bytes : List UInt8} (h : readSymbols text = .ok bytes) :
    bytes.length ≤ text.length := by
  obtain ⟨bytes', hread, -, hle⟩ := readSymbols_of_mem_codes (mem_codes_of_readSymbols h)
  rw [h] at hread
  cases hread
  exact hle

/-! ## Texts -/

/-- Symbols are ASCII. -/
theorem lt_of_mem_codes {byte : UInt8} (h : byte ∈ codes) : byte.toNat < 128 := by
  have hall : ∀ b ∈ codes.toList, b.toNat < 128 := by
    decide +kernel
  exact hall byte (Vector.mem_toList_iff.mpr h)

/-- The characters of the alphabet are ASCII. -/
theorem lt_of_mem_alphabet {c : Char} (h : c ∈ alphabet) : c.toNat < 128 := by
  have hall : alphabet.toList.all (fun c => c.toNat < 128) = true := by
    decide +kernel
  exact of_decide_eq_true (List.all_eq_true.mp hall c (Vector.mem_toList_iff.mpr h))

/-- The code of an ASCII character is a symbol exactly when the character is in the alphabet. -/
theorem ofNat_mem_codes_iff {c : Char} (h : c.toNat < 128) : UInt8.ofNat c.toNat ∈ codes ↔ c ∈ alphabet := by
  have hcode : ∀ {a : Char}, a.toNat < 128 → (UInt8.ofNat a.toNat).toNat = a.toNat := fun ha =>
    UInt8.toNat_ofNat_of_lt' (Nat.lt_trans ha (by decide))
  constructor
  · intro hmem
    obtain ⟨a, ha, hsame⟩ := Vector.mem_map.mp hmem
    have hnat : a.toNat = c.toNat := by
      rw [← hcode (lt_of_mem_alphabet ha), hsame, hcode h]
    rwa [← Char.ofNat_toNat c, ← hnat, Char.ofNat_toNat]
  · exact fun hmem => Vector.mem_map.mpr ⟨c, hmem, rfl⟩

/-- What a character is written as begins with a symbol exactly when the character is in the alphabet. -/
theorem mem_codes_iff_of_utf8EncodeChar {c : Char} {byte : UInt8} {bytes : List UInt8}
    (h : String.utf8EncodeChar c = byte :: bytes) : byte ∈ codes ↔ c ∈ alphabet := by
  by_cases hascii : c.toNat < 128
  · rw [Utf8.utf8EncodeChar_of_lt hascii] at h
    obtain ⟨rfl, -⟩ := List.cons.inj h
    exact ofNat_mem_codes_iff hascii
  · obtain ⟨b, bs, hencode, hlarge⟩ := Utf8.exists_utf8EncodeChar_of_le (Nat.le_of_not_lt hascii)
    obtain ⟨rfl, -⟩ := List.cons.inj (h.symm.trans hencode)
    refine iff_of_false (fun hmem => ?_) fun hmem => hascii (lt_of_mem_alphabet hmem)
    exact absurd (lt_of_mem_codes hmem) (Nat.not_lt.mpr hlarge)

/-- The character of an ASCII byte is written as that byte. -/
theorem utf8EncodeChar_ofNat {byte : UInt8} (h : byte.toNat < 128) :
    String.utf8EncodeChar (Char.ofNat byte.toNat) = [byte] := by
  have hval := Utf8.toNat_ofNat_byte byte
  rw [Utf8.utf8EncodeChar_of_lt (by rwa [hval]), hval, UInt8.ofNat_toNat]

/-- ASCII bytes are the bytes of the text that they write. -/
theorem encode_asciiText {bytes : List UInt8} (h : ∀ byte ∈ bytes, byte.toNat < 128) :
    Utf8.encode (asciiText bytes) = bytes := by
  rw [Utf8.encode, asciiText, String.toList_ofList]
  induction bytes with
  | nil => rfl
  | cons byte bytes ih =>
    rw [List.map_cons, List.flatMap_cons, utf8EncodeChar_ofNat (h byte List.mem_cons_self),
      ih fun b hb => h b (List.mem_cons_of_mem byte hb)]
    rfl

/-- An encoded text has a character for each symbol. -/
theorem length_encode (bytes : List UInt8) : (encode bytes).length = (symbols bytes).length := by
  rw [encode, asciiText, String.length_ofList, List.length_map]

/-- The bytes of an encoded text are the numeral. -/
theorem utf8_encode (bytes : List UInt8) : Utf8.encode (encode bytes) = symbols bytes :=
  encode_asciiText fun _ h => lt_of_mem_codes (mem_codes_of_mem_symbols h)

/-! ## Decoding -/

/-- Decoding reads the numeral; the room is always enough. -/
theorem decode_eq (text : List UInt8) :
    decode text = match readSymbols text with
      | .ok bytes => .ok bytes
      | .error position => .error (Buffer.invalidAt text position) := by
  rw [decode, withRoomFor, Buffer.decode]
  cases h : readSymbols text with
  | error position => rfl
  | ok bytes =>
    have hroom := length_le_of_readSymbols h
    simp [Buffer.write, maxDecodedLength, hroom, Except.map]

/-- A text decodes to a byte string exactly when it is read as that byte string. -/
theorem decode_eq_ok_iff_readSymbols {text bytes : List UInt8} : decode text = .ok bytes ↔ readSymbols text = .ok bytes := by
  rw [decode_eq]
  cases readSymbols text with
  | error position => simp
  | ok bytes' => simp

/-- Decoding never lacks room. -/
theorem decode_ne_bufferTooSmall (text : List UInt8) (required capacity : Nat) :
    decode text ≠ .error (.bufferTooSmall required capacity) := by
  intro h
  rw [decode_eq] at h
  split at h <;> cases h

/-- Base58 is a bijection between the byte strings and the strings over the alphabet: a byte string's text decodes to it, and
the texts that decode to something are those over the alphabet, each to the byte string whose text it is. -/
theorem decode_encode_bijection :
    (∀ bytes : List UInt8, decode (Utf8.encode (encode bytes)) = .ok bytes) ∧
      ∀ text : List UInt8, ((∃ bytes, decode text = .ok bytes) ↔ ∀ byte ∈ text, byte ∈ codes) ∧
        ∀ bytes, decode text = .ok bytes ↔ Utf8.encode (encode bytes) = text := by
  refine ⟨fun bytes => ?_, fun text => ⟨?_, fun bytes => ?_⟩⟩
  · rw [utf8_encode, decode_eq_ok_iff_readSymbols]
    exact readSymbols_symbols bytes
  · simp only [decode_eq_ok_iff_readSymbols]
    exact exists_readSymbols_eq_ok_iff text
  · rw [utf8_encode, decode_eq_ok_iff_readSymbols]
    exact readSymbols_eq_ok_iff

end KeyText.Base58
