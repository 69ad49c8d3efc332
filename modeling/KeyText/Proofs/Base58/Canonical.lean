import KeyText.Proofs.Base58.Codec

/-!
# The text of a byte string is its canonical numeral

A number has one numeral of radix 58 that does not begin with a zero, and zero has the empty one (`Canonical`). The text of a
byte string is that numeral of the number that its bytes write, behind one zero symbol for each of its leading zero bytes
(`encode_canonical`). The numeral begins with another symbol than the zero symbol, so the two can be told apart: a text has as
many leading zero symbols as the byte string has leading zero bytes.
-/

namespace KeyText.Base58

/-- Digits of radix 58, most significant first, that write a number and do not begin with a zero. -/
structure Canonical (digits : List (Fin 58)) (value : Nat) : Prop where
  value : Nat.ofDigits 58 (digits.map Fin.val).reverse = value
  leading : digits.head? ≠ some 0

/-- A number has one canonical numeral. -/
theorem Canonical.map_val {digits : List (Fin 58)} {value : Nat} (h : Canonical digits value) :
    digits.map Fin.val = (Nat.digits 58 value).reverse := by
  have hlt : ∀ d ∈ digits.map Fin.val, d < 58 := by
    intro d hd
    obtain ⟨digit, -, rfl⟩ := List.mem_map.mp hd
    exact digit.isLt
  have hleading : (digits.map Fin.val).head? ≠ some 0 := by
    rw [List.head?_map]
    intro hzero
    obtain ⟨digit, hdigit, hval⟩ := Option.map_eq_some_iff.mp hzero
    obtain rfl : digit = 0 := Fin.ext hval
    exact h.leading hdigit
  rw [← h.value, digits_ofDigits_reverse (by decide) hlt hleading]

/-- Only zero has no digits. -/
theorem Canonical.eq_nil_iff {digits : List (Fin 58)} {value : Nat} (h : Canonical digits value) :
    digits = [] ↔ value = 0 := by
  rw [← List.map_eq_nil_iff (f := Fin.val), h.map_val, List.reverse_eq_nil_iff, Nat.digits_eq_nil_iff_eq_zero]

/-- Every number has a canonical numeral. -/
theorem exists_canonical (value : Nat) : ∃ digits, Canonical digits value := by
  have hval : ((Nat.digits 58 value).reverse.map (Fin.ofNat 58)).map Fin.val = (Nat.digits 58 value).reverse := by
    rw [List.map_map]
    conv_rhs => rw [← List.map_id (Nat.digits 58 value).reverse]
    apply List.map_congr_left
    intro d hd
    exact Nat.mod_eq_of_lt (Nat.digits_lt_base (by decide) (List.mem_reverse.mp hd))
  refine ⟨(Nat.digits 58 value).reverse.map (Fin.ofNat 58), ?_, ?_⟩
  · rw [hval, List.reverse_reverse, Nat.ofDigits_digits]
  · intro hzero
    apply head?_reverse_digits 58 value
    rw [← hval, List.head?_map, hzero]
    rfl

/-- The character of the symbol for a digit is the letter that the alphabet has for it. -/
theorem ofNat_symbolOf (digit : Fin 58) : Char.ofNat (symbolOf digit).toNat = alphabet.get digit := by
  revert digit
  decide +kernel

/-- No other digit than zero has the zero symbol. -/
theorem eq_zero_of_get_alphabet {digit : Fin 58} (h : alphabet.get digit = '1') : digit = 0 := by
  revert digit
  decide +kernel

/-- A text of digits begins with the zero symbol only if the first digit is zero. -/
theorem head?_map_alphabet {digits : List (Fin 58)} (h : digits.head? ≠ some 0) :
    (digits.map alphabet.get).head? ≠ some '1' := by
  rw [List.head?_map]
  intro hone
  obtain ⟨digit, hdigit, hsymbol⟩ := Option.map_eq_some_iff.mp hone
  rw [eq_zero_of_get_alphabet hsymbol] at hdigit
  exact h hdigit

/-- The text of a byte string is a zero symbol for each of its leading zero bytes, and then the letters for the canonical
numeral of the number that it writes, which is empty for zero. So the text has as many leading zero symbols as the byte string
has leading zero bytes. -/
theorem encode_canonical (bytes : List UInt8) :
    ∃ digits : List (Fin 58), Canonical digits (Radix.valueBE bytes) ∧ (digits = [] ↔ Radix.valueBE bytes = 0) ∧
      (encode bytes).toList =
        List.replicate (bytes.takeWhile (· == 0)).length '1' ++ digits.map alphabet.get ∧
      ((encode bytes).toList.takeWhile (· == '1')).length = (bytes.takeWhile (· == 0)).length := by
  obtain ⟨digits, hcanonical⟩ := exists_canonical (Radix.valueBE bytes)
  have hzeros : ((bytes.map UInt8.toNat).takeWhile (· == 0)).length = (bytes.takeWhile (· == 0)).length := by
    rw [List.takeWhile_map, beq_zero_comp_toNat, List.length_map]
  have hone : Char.ofNat (symbolOf 0).toNat = '1' := by decide +kernel
  have htext : (encode bytes).toList =
      List.replicate (bytes.takeWhile (· == 0)).length '1' ++ digits.map alphabet.get := by
    rw [encode, asciiText, String.toList_ofList, symbols_eq_map_reradix, reradix, ← Radix.valueBE_eq_ofDigits,
      ← hcanonical.map_val, hzeros, List.map_map, List.map_append, List.map_replicate, List.map_map, Function.comp_apply,
      hone]
    congr 1
    exact List.map_congr_left fun digit _ => ofNat_symbolOf digit
  refine ⟨digits, hcanonical, hcanonical.eq_nil_iff, htext, ?_⟩
  rw [htext, takeWhile_replicate_append _ (head?_map_alphabet hcanonical.leading), List.length_replicate]

end KeyText.Base58
