import KeyText.Proofs.Command.Input

/-!
# The grammar of bytes in hexadecimal

What a command takes for bytes in hexadecimal, told without the reader: a text in UTF-8 that is, apart from white space, pairs of
digits for the bytes, with or without a mark in front (`HexForm`, `parseBytes_hex_grammar`). White space counts for nothing wherever
it stands, inside a pair or inside the mark.
-/

namespace KeyText.Command

/-- The forms of a byte string in hexadecimal: pairs of digits for its bytes, with or without a mark in front. -/
inductive HexForm (bytes : List UInt8) : List Char → Prop
  | plain {digits : List Char} : Hex.DigitPairs digits bytes → HexForm bytes digits
  | marked {x : Char} {digits : List Char} : x = 'x' ∨ x = 'X' → Hex.DigitPairs digits bytes →
      HexForm bytes ('0' :: x :: digits)

/-- Behind the mark, or where there is none, stand pairs of digits. -/
theorem hexForm_iff {bytes : List UInt8} {cs : List Char} : HexForm bytes cs ↔ Hex.DigitPairs (withoutHexMark cs) bytes := by
  constructor
  · rintro (hdigits | ⟨rfl | rfl, hdigits⟩)
    · rwa [withoutHexMark_of_digitPairs hdigits]
    · exact hdigits
    · exact hdigits
  · intro h
    unfold withoutHexMark at h
    split at h
    · exact .marked (Or.inl rfl) h
    · exact .marked (Or.inr rfl) h
    · exact .plain h

/-- A text spells a byte string when it is one of these forms, apart from white space. -/
theorem spells_iff_hexForm {text : String} {bytes : List UInt8} :
    Spells text bytes ↔ HexForm bytes (squeezed text.toList) := by
  rw [hexForm_iff, Hex.digitPairs_iff, Spells]

/-- No form holds white space. -/
theorem HexForm.squeezed_eq {bytes : List UInt8} {cs : List Char} (h : HexForm bytes cs) : squeezed cs = cs := by
  cases h with
  | plain hdigits => exact squeezed_of_digitPairs hdigits
  | @marked x digits hx hdigits =>
    have hzero : ¬isBlank '0' := by decide
    have hx' : ¬isBlank x := by rcases hx with rfl | rfl <;> decide
    rw [squeezed_cons_of_not_blank hzero, squeezed_cons_of_not_blank hx', squeezed_of_digitPairs hdigits]

/-- Bytes are read in hexadecimal exactly when they are UTF-8, and deleting the white space of the text leaves pairs of digits for
what is read, with or without a mark in front of them. So putting white space into such a form, at any places, changes nothing. -/
theorem parseBytes_hex_grammar :
    (∀ raw bytes, parseBytes raw .hex = .ok bytes ↔
      ∃ text : String, Utf8.encode text = raw ∧ HexForm bytes (text.toList.filter (·.toNat ∉ whiteSpace))) ∧
    ∀ (text : String) bytes form, HexForm bytes form → Spread form text.toList →
      parseBytes (Utf8.encode text) .hex = .ok bytes := by
  have hblank : (fun c : Char => decide (c.toNat ∉ whiteSpace)) = fun c => !isBlank c := by
    funext c
    rw [Bool.eq_iff_iff, decide_eq_true_eq, ← isBlank_iff, Bool.not_eq_true', Bool.not_eq_true]
  constructor
  · intro raw bytes
    rw [parseBytes_hex_eq_ok_iff, hblank]
    exact exists_congr fun text => and_congr_right fun _ => spells_iff_hexForm
  · intro text bytes form hform hspread
    refine parseBytes_hex_eq_ok_iff.mpr ⟨text, rfl, spells_iff_hexForm.mpr ?_⟩
    rwa [hspread.squeezed_eq, hform.squeezed_eq]

/-- Two bytes in both cases, with an ideographic space inside the mark and a line break and a space around the half of a pair. -/
theorem parseBytes_hex_grammar_split_mark :
    HexForm [0x00, 0xFF] "0X00fF".toList ∧ Spread "0X00fF".toList "0\u3000X00\nf F".toList ∧
      parseBytes (Utf8.encode "0\u3000X00\nf F") .hex = .ok [0x00, 0xFF] := by
  have hform : HexForm [0x00, 0xFF] "0X00fF".toList := by
    rw [hexForm_iff, Hex.digitPairs_iff]
    decide +kernel
  have hsqueezed : squeezed "0\u3000X00\nf F".toList = "0X00fF".toList := by
    decide +kernel
  have hspread : Spread "0X00fF".toList "0\u3000X00\nf F".toList := by
    rw [← hsqueezed]
    exact spread_squeezed _
  exact ⟨hform, hspread, parseBytes_hex_grammar.2 _ _ _ hform hspread⟩

end KeyText.Command
