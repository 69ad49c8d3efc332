import KeyText.Proofs.Base58.Checked
import KeyText.Proofs.Repair.Overwrite

/-!
# A byte for each character decides the same

The search works on one byte for each character, and the caller sees texts. An accepted text has characters of the alphabet
alone, and for such a text the bytes of its characters are its UTF-8 bytes, so both are decoded to the same payload
(`decodeChecked_characters_iff`). A character outside ASCII is one byte that is no symbol on one side, and some bytes that
are no symbols on the other.
-/

namespace KeyText.Repair

open Base58 (alphabet codes symbolOf lt_of_mem_alphabet)

/-- The byte that stands for a character while a search works on the text. -/
def byteOf (c : Char) : UInt8 :=
  if c.toNat < 128 then UInt8.ofNat c.toNat else nonAscii

/-- The character of the alphabet for a digit below 58. -/
def letter (digit : UInt8) : Char :=
  alphabet[digit.toNat]?.getD '1'

/-- The digit value of a character of the alphabet. -/
def digitOf (c : Char) : Nat :=
  alphabet.toList.idxOf c

theorem characters_eq_map (text : String) : characters text = text.toList.map byteOf := rfl

@[simp] theorem length_characters (text : String) : (characters text).length = text.length := by
  rw [characters_eq_map, List.length_map, String.length_toList]

/-! ## Symbols as characters -/

/-- The byte of an ASCII character is its code. -/
theorem byteOf_of_lt {c : Char} (h : c.toNat < 128) : byteOf c = UInt8.ofNat c.toNat := by
  rw [byteOf, if_pos h]

theorem toNat_byteOf {c : Char} (h : c.toNat < 128) : (byteOf c).toNat = c.toNat := by
  rw [byteOf_of_lt h, UInt8.toNat_ofNat_of_lt' (Nat.lt_trans h (by decide))]

/-- An ASCII character is the character of its byte. -/
theorem ofNat_byteOf {c : Char} (h : c.toNat < 128) : Char.ofNat (byteOf c).toNat = c := by
  rw [toNat_byteOf h, Char.ofNat_toNat]

/-- The byte of a character is a symbol exactly when the character is one. -/
theorem byteOf_mem_codes_iff {c : Char} : byteOf c ∈ codes ↔ c ∈ alphabet := by
  by_cases hascii : c.toNat < 128
  · rw [byteOf_of_lt hascii]
    exact Base58.ofNat_mem_codes_iff hascii
  · refine iff_of_false (fun h => ?_) fun h => hascii (lt_of_mem_alphabet h)
    rw [byteOf, if_neg hascii] at h
    exact absurd (Base58.lt_of_mem_codes h) (by decide)

/-- The character for a digit is in the alphabet, and its byte is the symbol. -/
theorem byteOf_letter {digit : UInt8} (h : digit.toNat < 58) :
    letter digit ∈ alphabet ∧ byteOf (letter digit) = symbolByte digit := by
  have hget : letter digit = alphabet[digit.toNat] := by
    rw [letter, Vector.getElem?_eq_getElem h, Option.getD_some]
  have hmem : letter digit ∈ alphabet := by
    rw [hget]
    exact Vector.getElem_mem h
  refine ⟨hmem, ?_⟩
  have hsymbol : Base58.symbol? digit = some (UInt8.ofNat (letter digit).toNat) := by
    rw [Base58.symbol?, hget, codes, Vector.getElem?_eq_getElem h, Vector.getElem_map]
  rw [byteOf_of_lt (lt_of_mem_alphabet hmem), symbolByte, ← Option.some.injEq, ← hsymbol, ← Base58.symbol?_ofNat h,
    UInt8.ofNat_toNat]

/-- Every character of the alphabet is the character for a digit. -/
theorem exists_letter_eq {c : Char} (h : c ∈ alphabet) : ∃ digit : UInt8, digit.toNat < 58 ∧ letter digit = c := by
  obtain ⟨i, hi, rfl⟩ := Vector.mem_iff_getElem.mp h
  have hval : (UInt8.ofNat i).toNat = i := UInt8.toNat_ofNat_of_lt' (Nat.lt_trans hi (by decide))
  refine ⟨UInt8.ofNat i, ?_, ?_⟩
  · rwa [hval]
  · rw [letter, hval, Vector.getElem?_eq_getElem hi, Option.getD_some]

/-- The digit value of the character for a digit is the digit. -/
theorem digitOf_letter {digit : UInt8} (h : digit.toNat < 58) : digitOf (letter digit) = digit.toNat := by
  have honce : alphabet.toList.Nodup := by
    decide +kernel
  have hlt : digit.toNat < alphabet.toList.length := by
    rwa [Vector.length_toList]
  rw [letter, Vector.getElem?_eq_getElem h, Option.getD_some, digitOf, ← Vector.getElem_toList hlt]
  exact honce.idxOf_getElem _ hlt

/-- A character of the alphabet is the character for its digit value. -/
theorem letter_digitOf {c : Char} (h : c ∈ alphabet) : digitOf c < 58 ∧ letter (UInt8.ofNat (digitOf c)) = c := by
  obtain ⟨digit, hdigit, rfl⟩ := exists_letter_eq h
  rw [digitOf_letter hdigit, UInt8.ofNat_toNat]
  exact ⟨hdigit, rfl⟩

/-! ## Texts as bytes -/

/-- The bytes of a text of ASCII characters are one for each. -/
theorem encode_eq_characters {text : String} (h : ∀ c ∈ text.toList, c.toNat < 128) :
    Utf8.encode text = characters text := by
  rw [Utf8.encode, characters_eq_map, List.map_eq_flatMap]
  apply List.flatMap_congr
  intro c hc
  rw [Utf8.utf8EncodeChar_of_lt (h c hc), byteOf_of_lt (h c hc)]

/-- A text of ASCII characters is the text that their bytes write. -/
theorem asciiText_characters {text : String} (h : ∀ c ∈ text.toList, c.toNat < 128) :
    Base58.asciiText (characters text) = text := by
  rw [Base58.asciiText, characters_eq_map, List.map_map]
  have hmap : text.toList.map ((fun b : UInt8 => Char.ofNat b.toNat) ∘ byteOf) = text.toList.map id :=
    List.map_congr_left fun c hc => ofNat_byteOf (h c hc)
  rw [hmap, List.map_id, String.ofList_toList]

/-- Where the bytes of all characters are symbols, the characters are. -/
theorem mem_alphabet_of_characters {text : String} (h : ∀ byte ∈ characters text, byte ∈ codes) :
    ∀ c ∈ text.toList, c ∈ alphabet := by
  intro c hc
  rw [← byteOf_mem_codes_iff]
  exact h _ (List.mem_map_of_mem hc)

/-- Where all bytes of a text are symbols, its characters are. -/
theorem mem_alphabet_of_encode {text : String} (h : ∀ byte ∈ Utf8.encode text, byte ∈ codes) :
    ∀ c ∈ text.toList, c ∈ alphabet := by
  intro c hc
  obtain ⟨byte, bytes, hencode⟩ := Utf8.exists_utf8EncodeChar_eq_cons c
  rw [← Base58.mem_codes_iff_of_utf8EncodeChar hencode]
  apply h
  refine List.mem_flatMap.mpr ⟨c, hc, ?_⟩
  rw [hencode]
  exact List.mem_cons_self

/-- An accepted text has characters of the alphabet alone. -/
theorem mem_alphabet_of_decodeChecked {text : String} {checksum : Checksum} {payload : List UInt8}
    (h : Base58.decodeChecked (Utf8.encode text) checksum = .ok payload) : ∀ c ∈ text.toList, c ∈ alphabet :=
  mem_alphabet_of_encode (Base58.mem_codes_of_decodeChecked h)

/-- The bytes of the characters decode to a payload exactly when the text does. -/
theorem decodeChecked_characters_iff {text : String} {checksum : Checksum} {payload : List UInt8} :
    Base58.decodeChecked (characters text) checksum = .ok payload ↔
      Base58.decodeChecked (Utf8.encode text) checksum = .ok payload := by
  constructor
  · intro h
    have hsymbols := mem_alphabet_of_characters (Base58.mem_codes_of_decodeChecked h)
    rwa [encode_eq_characters fun c hc => lt_of_mem_alphabet (hsymbols c hc)]
  · intro h
    have hsymbols := mem_alphabet_of_decodeChecked h
    rwa [← encode_eq_characters fun c hc => lt_of_mem_alphabet (hsymbols c hc)]

end KeyText.Repair
