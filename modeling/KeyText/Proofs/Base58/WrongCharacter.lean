import KeyText.Proofs.Base58.Checked

/-!
# The first wrong character

A text with a byte outside the alphabet is refused by all four ways of decoding, with one and the same error: it tells the first
such byte and the character that stands there (`FirstWrong`, `reports_first_wrong`). The bytes before it are symbols, so each of
them is a character of its own. Where the whole text is UTF-8, the position therefore counts its characters as well
(`FirstWrong.split`).
-/

namespace KeyText.Base58

/-- The first wrong character of a text: the byte at a position is no symbol, all bytes before it are, and what stands there is the
character. -/
structure FirstWrong (text : List UInt8) (position : Nat) (character : Char) : Prop where
  wrong : ∃ byte, text[position]? = some byte ∧ byte ∉ codes
  symbols : ∀ byte ∈ text.take position, byte ∈ codes
  stands : Utf8.StandsAtHead (text.drop position) character

section FirstWrong

variable {text : List UInt8} {position : Nat} {character : Char}

/-- A text with a byte that is no symbol is not read, and what is reported of it is the first wrong character. -/
theorem exists_readSymbols_eq_error (h : ∃ byte ∈ text, byte ∉ codes) :
    ∃ position, readSymbols text = .error position ∧
      FirstWrong text position (Utf8.charAtHead (text.drop position)) := by
  obtain ⟨byte, hmem, hbyte⟩ := h
  have hsome : (text.findIdx? fun b => (digit? b).isNone).isSome := by
    rw [List.findIdx?_isSome, List.any_eq_true]
    exact ⟨byte, hmem, digit?_isNone_iff.mpr hbyte⟩
  obtain ⟨position, hfind⟩ := Option.isSome_iff_exists.mp hsome
  obtain ⟨hlt, hwrong, hbefore⟩ := List.findIdx?_eq_some_iff_getElem.mp hfind
  refine ⟨position, (readSymbols_eq_error_iff text position).mpr hfind, ?_, ?_, Utf8.charAtHead_eq_iff.mp rfl⟩
  · exact ⟨text[position], List.getElem?_eq_getElem hlt, digit?_isNone_iff.mp hwrong⟩
  · intro b hb
    obtain ⟨i, hi, rfl⟩ := List.mem_take_iff_getElem.mp hb
    by_contra hno
    exact hbefore i (Nat.lt_of_lt_of_le hi (Nat.min_le_left _ _)) (digit?_isNone_iff.mpr hno)

/-- A symbol in front of a text moves its first wrong character on by one byte. -/
theorem FirstWrong.tail {byte : UInt8} (h : FirstWrong (byte :: text) (position + 1) character) :
    byte ∈ codes ∧ FirstWrong text position character := by
  obtain ⟨hwrong, hsymbols, hstands⟩ := h
  rw [List.take_succ_cons, List.forall_mem_cons] at hsymbols
  exact ⟨hsymbols.1, hwrong, hsymbols.2, hstands⟩

/-- In the bytes of characters, the first wrong character is the first one outside the alphabet, and as many characters stand
before it as bytes. -/
theorem FirstWrong.split {cs : List Char} (h : FirstWrong (cs.flatMap String.utf8EncodeChar) position character) :
    character ∉ alphabet ∧
      ∃ before after, cs = before ++ character :: after ∧ before.length = position ∧ ∀ c ∈ before, c ∈ alphabet := by
  induction cs generalizing position with
  | nil =>
    obtain ⟨_, hbyte, -⟩ := h.wrong
    simp at hbyte
  | cons c cs ih =>
    obtain ⟨b, bs, hencode⟩ := Utf8.exists_utf8EncodeChar_eq_cons c
    rw [List.flatMap_cons] at h
    cases position with
    | zero =>
      obtain ⟨byte, hbyte, hwrong⟩ := h.wrong
      rw [hencode, List.cons_append, List.getElem?_cons_zero] at hbyte
      cases hbyte
      obtain rfl : c = character := by
        rw [← Utf8.charAtHead_eq_iff.mpr h.stands, List.drop_zero, Utf8.charAtHead_append]
      exact ⟨(mem_codes_iff_of_utf8EncodeChar hencode).not.mp hwrong, [], cs, rfl, rfl, fun _ hc => by cases hc⟩
    | succ position =>
      -- The first byte is a symbol, so it is all of the first character.
      have hfirst : c ∈ alphabet := by
        rw [← mem_codes_iff_of_utf8EncodeChar hencode]
        rw [hencode] at h
        exact h.tail.1
      rw [Utf8.utf8EncodeChar_of_lt (lt_of_mem_alphabet hfirst)] at h
      obtain ⟨hother, before, after, rfl, rfl, hbefore⟩ := ih h.tail.2
      exact ⟨hother, c :: before, after, rfl, rfl, List.forall_mem_cons.mpr ⟨hfirst, hbefore⟩⟩

end FirstWrong

/-- A text with a byte outside the alphabet is refused for its first wrong character, whatever the checksum, and whatever the room
and the contents of a buffer, which stays as it is. The character is also the first that reading the text from there on finds before
any damage, or the replacement character if it finds none. Where the text is UTF-8, it is the first of its characters that is not in
the alphabet, and the position is the number of the characters before it. -/
theorem reports_first_wrong {text : List UInt8} (h : ∃ byte ∈ text, byte ∉ codes) :
    ∃ position character, FirstWrong text position character ∧
      decode text = .error (.invalidCharacter position character) ∧
      (∀ checksum, decodeChecked text checksum = .error (.invalidCharacter position character)) ∧
      (∀ buffer, Buffer.decode text buffer = (.error (.invalidCharacter position character), buffer)) ∧
      (∀ checksum buffer,
        Buffer.decodeChecked text checksum buffer = (.error (.invalidCharacter position character), buffer)) ∧
      character = (Utf8.soundPart (text.drop position)).toList.headD Utf8.replacement ∧
      ∀ s : String, Utf8.encode s = text → character ∉ alphabet ∧
        ∃ before after, s.toList = before ++ character :: after ∧ before.length = position ∧
          ∀ c ∈ before, c ∈ alphabet := by
  obtain ⟨position, hread, hfirst⟩ := exists_readSymbols_eq_error h
  refine ⟨position, _, hfirst, ?_, fun checksum => ?_, fun buffer => ?_, fun checksum buffer => ?_,
    (Utf8.headD_soundPart _).symm, ?_⟩
  · rw [decode_eq, hread]
    rfl
  · rw [decodeChecked_eq, hread]
    rfl
  · rw [Buffer.decode, hread]
    rfl
  · rw [Buffer.decodeChecked_eq, hread]
    rfl
  · rintro s rfl
    exact hfirst.split

/-- Behind a leading zero symbol, two of the three bytes of a character and then a symbol: nothing stands there. And a text in which
the first wrong character has three bytes. -/
theorem reports_first_wrong_cut_short :
    (∃ byte ∈ [0x31, 0xE2, 0x82, 0x7A], byte ∉ codes) ∧ FirstWrong [0x31, 0xE2, 0x82, 0x7A] 1 '\ufffd' ∧
      (∀ buffer, Buffer.decode [0x31, 0xE2, 0x82, 0x7A] buffer = (.error (.invalidCharacter 1 '\ufffd'), buffer)) ∧
      (∃ byte ∈ Utf8.encode "1z€0", byte ∉ codes) ∧ FirstWrong (Utf8.encode "1z€0") 2 '€' ∧
      ∀ checksum, decodeChecked (Utf8.encode "1z€0") checksum = .error (.invalidCharacter 2 '€') := by
  have hcut : ∃ byte ∈ [0x31, 0xE2, 0x82, 0x7A], byte ∉ codes := ⟨0xE2, by decide, by decide +kernel⟩
  have hwhole : ∃ byte ∈ Utf8.encode "1z€0", byte ∉ codes := ⟨0xE2, by decide +kernel, by decide +kernel⟩
  have hcutdecode : decode [0x31, 0xE2, 0x82, 0x7A] = .error (.invalidCharacter 1 '\ufffd') := by
    decide +kernel
  have hwholedecode : decode (Utf8.encode "1z€0") = .error (.invalidCharacter 2 '€') := by
    decide +kernel
  obtain ⟨_, _, hcutfirst, hcutsame, -, hcutbuffer, -⟩ := reports_first_wrong hcut
  obtain ⟨_, _, hwholefirst, hwholesame, hwholechecked, -⟩ := reports_first_wrong hwhole
  cases hcutdecode.symm.trans hcutsame
  cases hwholedecode.symm.trans hwholesame
  exact ⟨hcut, hcutfirst, hcutbuffer, hwhole, hwholefirst, hwholechecked⟩

end KeyText.Base58
