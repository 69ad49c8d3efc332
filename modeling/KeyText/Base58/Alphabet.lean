/-!
# The Base58 alphabet

The 58 symbols are the ASCII digits and letters without `0`, `O`, `I` and `l`, which are easily taken for one another. The
place of a symbol in the alphabet is its digit value.
-/

namespace KeyText.Base58

/-- The number of symbols. -/
def radix : UInt32 := 58

/-- The symbols in the order of their digit values. -/
def alphabet : Vector Char 58 :=
  #v['1', '2', '3', '4', '5', '6', '7', '8', '9',
    'A', 'B', 'C', 'D', 'E', 'F', 'G', 'H', 'J', 'K', 'L', 'M', 'N', 'P', 'Q', 'R', 'S', 'T', 'U', 'V', 'W', 'X', 'Y', 'Z',
    'a', 'b', 'c', 'd', 'e', 'f', 'g', 'h', 'i', 'j', 'k', 'm', 'n', 'o', 'p', 'q', 'r', 's', 't', 'u', 'v', 'w', 'x', 'y',
    'z']

/-- The ASCII codes of the symbols in the order of their digit values. -/
def codes : Vector UInt8 58 :=
  alphabet.map fun c => UInt8.ofNat c.toNat

/-- The symbol for a digit value, as an ASCII byte; values from 58 on have none. -/
def symbol? (digit : UInt8) : Option UInt8 :=
  codes[digit.toNat]?

/-- The digit value of a symbol, given as a byte; all other bytes have none. -/
def digit? (byte : UInt8) : Option UInt8 :=
  (codes.toList.idxOf? byte).map UInt8.ofNat

/-- The symbol of digit value zero, which stands for one leading zero byte when it leads a text. -/
def zeroSymbol : UInt8 := 0x31

/-- No two digit values share a symbol. -/
theorem nodup_codes : codes.toList.Nodup := by
  decide +kernel

/-- A byte read as a digit is the symbol for that digit. -/
theorem symbol?_of_digit? {byte digit : UInt8} (h : digit? byte = some digit) : symbol? digit = some byte := by
  obtain ⟨i, hi, rfl⟩ := Option.map_eq_some_iff.1 h
  obtain ⟨bound, rfl, -⟩ := List.idxOf?_eq_some_iff.1 hi
  have small : i < 58 := by simpa using bound
  have : (UInt8.ofNat i).toNat = i := by simp; omega
  simp [symbol?, this, small]

/-- A symbol is read as the digit that it is the symbol for. -/
theorem digit?_of_symbol? {byte digit : UInt8} (h : symbol? digit = some byte) : digit? byte = some digit := by
  obtain ⟨bound, rfl⟩ := Vector.getElem?_eq_some_iff.1 h
  refine Option.map_eq_some_iff.2 ⟨digit.toNat, List.idxOf?_eq_some_iff.2 ⟨by simpa using bound, by simp, ?_⟩, by simp⟩
  intro j hj same
  have distinct := List.pairwise_iff_getElem.1 nodup_codes
  exact distinct j digit.toNat (by simp; omega) (by simpa using bound) hj (by simpa using same)

/-- Exactly the values below 58 have a symbol. -/
theorem symbol?_isSome_iff {digit : UInt8} : (symbol? digit).isSome ↔ digit < 58 := by
  simp [symbol?, UInt8.lt_iff_toNat_lt]

end KeyText.Base58
