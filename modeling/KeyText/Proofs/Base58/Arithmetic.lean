import KeyText.Base58.Radix
import Mathlib.Data.Nat.Digits.Lemmas

/-!
# What the byte arithmetic computes

Short division and multiply-and-add as arithmetic on the numbers that the bytes write. Both are exact as long as the divisor
or the factor leaves room for one more byte in a 32-bit word (`Small`); then no word overflows and no quotient byte is cut
off. The number that multiply-and-add leaves has no zero byte at its end unless it had one before.
-/

namespace KeyText.Radix

/-! ## The numbers that bytes write -/

/-- A little-endian number is its bytes read as base-256 digits. -/
theorem valueLE_eq_ofDigits (bytes : List UInt8) : valueLE bytes = Nat.ofDigits 256 (bytes.map UInt8.toNat) := by
  induction bytes with
  | nil => rfl
  | cons b bs ih => rw [valueLE, ih, List.map_cons, Nat.ofDigits_cons]

/-- A byte behind a big-endian number moves it up by one place. -/
theorem valueBE_append_singleton (bytes : List UInt8) (b : UInt8) :
    valueBE (bytes ++ [b]) = valueBE bytes * 256 + b.toNat := by
  simp [valueBE]

/-- Bytes in reverse order write the same number with the other endianness. -/
theorem valueBE_reverse (bytes : List UInt8) : valueBE bytes.reverse = valueLE bytes := by
  induction bytes with
  | nil => rfl
  | cons b bs ih =>
    rw [List.reverse_cons, valueBE_append_singleton, ih, valueLE]
    omega

/-- A big-endian number is its bytes, last one first, read as base-256 digits. -/
theorem valueBE_eq_ofDigits (bytes : List UInt8) :
    valueBE bytes = Nat.ofDigits 256 (bytes.map UInt8.toNat).reverse := by
  rw [← List.map_reverse, ← valueLE_eq_ofDigits, ← valueBE_reverse, List.reverse_reverse]

/-- The first byte of a big-endian number counts for as many places as there are bytes behind it. -/
theorem valueBE_cons (b : UInt8) (bs : List UInt8) : valueBE (b :: bs) = b.toNat * 256 ^ bs.length + valueBE bs := by
  rw [valueBE_eq_ofDigits, valueBE_eq_ofDigits, List.map_cons, Nat.ofDigits_reverse_cons]
  simp only [List.length_map]
  ring

/-- The bytes of a number are digits of base 256. -/
theorem lt_of_mem_map_toNat {bytes : List UInt8} {d : Nat} (h : d ∈ bytes.map UInt8.toNat) : d < 256 := by
  obtain ⟨b, -, rfl⟩ := List.mem_map.mp h
  exact b.toNat_lt

/-- So many bytes write a number below the power of 256. -/
theorem valueBE_lt (bytes : List UInt8) : valueBE bytes < 256 ^ bytes.length := by
  rw [valueBE_eq_ofDigits]
  calc Nat.ofDigits 256 (bytes.map UInt8.toNat).reverse
      < 256 ^ (bytes.map UInt8.toNat).reverse.length :=
        Nat.ofDigits_lt_base_pow_length (by decide) fun d hd => lt_of_mem_map_toNat (List.mem_reverse.mp hd)
    _ = 256 ^ bytes.length := by rw [List.length_reverse, List.length_map]

/-! ## Words with room for a byte -/

/-- A divisor or a factor that is positive and leaves room for one more byte in a 32-bit word. -/
def Small (n : UInt32) : Prop :=
  0 < n.toNat ∧ n.toNat ≤ 2 ^ 24

/-- One byte at most leaves room for another. -/
theorem small_of_le {n : UInt32} (hpos : 0 < n.toNat) (hle : n.toNat ≤ 256) : Small n :=
  ⟨hpos, Nat.le_trans hle (by decide)⟩

/-- The zero word is below such a divisor or factor: there is room at the first byte, where nothing is carried yet. -/
theorem Small.zero_lt {n : UInt32} (h : Small n) : (0 : UInt32).toNat < n.toNat :=
  h.1

/-- A byte shifted in behind a remainder. -/
theorem toNat_shift_or (remainder : UInt32) (b : UInt8) (h : remainder.toNat < 2 ^ 24) :
    ((remainder <<< 8) ||| b.toUInt32).toNat = remainder.toNat * 256 + b.toNat := by
  have hb := b.toNat_lt
  have hr : remainder.toNat <<< 8 < 2 ^ 32 := by
    rw [Nat.shiftLeft_eq]
    omega
  have hs : (remainder <<< 8).toNat = remainder.toNat <<< 8 := by
    rw [UInt32.toNat_shiftLeft]
    exact Nat.mod_eq_of_lt hr
  rw [UInt32.toNat_or, hs, UInt8.toNat_toUInt32, ← Nat.shiftLeft_add_eq_or_of_lt hb, Nat.shiftLeft_eq]

/-- The low byte of a word. -/
theorem toNat_low (n : UInt32) : (n &&& 0xFF).toUInt8.toNat = n.toNat % 256 := by
  have h : (n &&& 0xFF).toNat = n.toNat % 256 := by
    rw [UInt32.toNat_and]
    exact Nat.and_two_pow_sub_one_eq_mod n.toNat 8
  rw [UInt32.toNat_toUInt8, h, Nat.mod_mod]

/-- A word without its low byte. -/
theorem toNat_high (n : UInt32) : (n >>> 8).toNat = n.toNat / 256 := by
  simp [Nat.shiftRight_eq_div_pow]

/-! ## Short division -/

/-- A byte behind a remainder: the word is the number that the two write, its quotient fits in a byte, and what remains is
again below the divisor. -/
theorem toNat_dividend {divisor remainder : UInt32} (hs : Small divisor) (hr : remainder.toNat < divisor.toNat) (b : UInt8) :
    ((remainder <<< 8) ||| b.toUInt32).toNat = remainder.toNat * 256 + b.toNat ∧
      (((remainder <<< 8) ||| b.toUInt32) / divisor).toNat < 256 ∧
      (((remainder <<< 8) ||| b.toUInt32) % divisor).toNat < divisor.toNat := by
  have hb := b.toNat_lt
  obtain ⟨hpos, hle⟩ := hs
  have hval := toNat_shift_or remainder b (by omega)
  refine ⟨hval, ?_, ?_⟩
  · rw [UInt32.toNat_div, hval, Nat.div_lt_iff_lt_mul hpos]
    omega
  · rw [UInt32.toNat_mod]
    exact Nat.mod_lt _ hpos

/-- Short division splits the number behind a remainder: quotient times divisor and the last remainder give it back, and that
remainder is below the divisor. -/
theorem divideFrom_spec {divisor remainder : UInt32} (hs : Small divisor) (bytes : List UInt8)
    (hr : remainder.toNat < divisor.toNat) :
    valueBE (divideFrom divisor remainder bytes).1 * divisor.toNat + (divideFrom divisor remainder bytes).2.toNat =
      remainder.toNat * 256 ^ bytes.length + valueBE bytes ∧
    (divideFrom divisor remainder bytes).2.toNat < divisor.toNat := by
  induction bytes generalizing remainder with
  | nil => simpa [divideFrom, valueBE] using hr
  | cons b bs ih =>
    obtain ⟨hd, hq, hnext⟩ := toNat_dividend hs hr b
    obtain ⟨hval, hlt⟩ := ih hnext
    rw [UInt32.toNat_mod, hd] at hval
    refine ⟨?_, by simpa only [divideFrom] using hlt⟩
    have hbyte : (((remainder <<< 8) ||| b.toUInt32) / divisor).toUInt8.toNat =
        (remainder.toNat * 256 + b.toNat) / divisor.toNat := by
      rw [UInt32.toNat_toUInt8, Nat.mod_eq_of_lt hq, UInt32.toNat_div, hd]
    have hsplit := Nat.div_add_mod (remainder.toNat * 256 + b.toNat) divisor.toNat
    simp only [divideFrom, valueBE_cons, hbyte, length_divideFrom, List.length_cons]
    generalize (remainder.toNat * 256 + b.toNat) / divisor.toNat = quotient at hsplit ⊢
    generalize (remainder.toNat * 256 + b.toNat) % divisor.toNat = rest at hsplit hval
    calc (quotient * 256 ^ bs.length + _) * divisor.toNat + _
        = quotient * divisor.toNat * 256 ^ bs.length + (rest * 256 ^ bs.length + valueBE bs) := by
          rw [← hval]
          ring
      _ = (divisor.toNat * quotient + rest) * 256 ^ bs.length + valueBE bs := by ring
      _ = _ := by
          rw [hsplit]
          ring

section

variable {divisor : UInt32}

/-- The remainder of a short division fits in the byte that it is told as. -/
theorem toNat_divide_remainder (hpos : 0 < divisor.toNat) (hle : divisor.toNat ≤ 256) (bytes : List UInt8) :
    (divide divisor bytes).2.toNat = (divideFrom divisor 0 bytes).2.toNat := by
  have hs := small_of_le hpos hle
  have hlt := (divideFrom_spec hs bytes hs.zero_lt).2
  rw [divide, UInt32.toNat_toUInt8]
  exact Nat.mod_eq_of_lt (Nat.lt_of_lt_of_le hlt hle)

/-- Short division of a number by a divisor of one byte at most: the quotient and the remainder of the division. -/
theorem divide_spec (hpos : 0 < divisor.toNat) (hle : divisor.toNat ≤ 256) (bytes : List UInt8) :
    valueBE (divide divisor bytes).1 = valueBE bytes / divisor.toNat ∧
      (divide divisor bytes).2.toNat = valueBE bytes % divisor.toNat := by
  have hs := small_of_le hpos hle
  obtain ⟨hval, hlt⟩ := divideFrom_spec hs bytes hs.zero_lt
  rw [UInt32.toNat_zero, Nat.zero_mul, Nat.zero_add] at hval
  rw [toNat_divide_remainder hpos hle, ← hval, divide]
  constructor
  · rw [Nat.mul_comm, Nat.mul_add_div hpos, Nat.div_eq_of_lt hlt, Nat.add_zero]
  · rw [Nat.mul_add_mod_self_right, Nat.mod_eq_of_lt hlt]

end

/-! ## Multiply and add -/

/-- The bytes of a carry write the carry. -/
theorem valueLE_carryBytes (carry : UInt32) : valueLE (carryBytes carry) = carry.toNat := by
  induction h : carry.toNat using Nat.strongRecOn generalizing carry with
  | ind n ih =>
    rw [carryBytes]
    split
    · rename_i hz
      subst hz
      simpa [valueLE] using h
    · rename_i hz
      have hpos : carry.toNat ≠ 0 := fun z => hz (UInt32.toNat_inj.mp z)
      rw [valueLE, toNat_low, ih _ (by rw [toNat_high]; omega) _ rfl, toNat_high]
      omega

/-- The last byte of a carry is not zero. -/
theorem getLast?_carryBytes (carry : UInt32) : (carryBytes carry).getLast? ≠ some 0 := by
  induction h : carry.toNat using Nat.strongRecOn generalizing carry with
  | ind n ih =>
    rw [carryBytes]
    split
    · simp
    · rename_i hz
      have hpos : carry.toNat ≠ 0 := fun z => hz (UInt32.toNat_inj.mp z)
      by_cases hhigh : carry >>> 8 = 0
      · have hval := toNat_high carry
        rw [hhigh, UInt32.toNat_zero] at hval
        rw [hhigh, carryBytes]
        simp only [dif_pos, List.getLast?_singleton, ne_eq, Option.some.injEq]
        intro hlow
        have := toNat_low carry
        rw [hlow, UInt8.toNat_zero] at this
        omega
      · have hne : carryBytes (carry >>> 8) ≠ [] := by
          rw [carryBytes, dif_neg hhigh]
          exact List.cons_ne_nil _ _
        rw [List.getLast?_cons_of_ne_nil hne]
        exact ih _ (by rw [toNat_high]; omega) _ rfl

/-- One product with its carry fits in a word, and the carry behind it is again below the factor. -/
theorem toNat_product {factor carry : UInt32} (hs : Small factor) (hc : carry.toNat < factor.toNat) (b : UInt8) :
    (b.toUInt32 * factor + carry).toNat = b.toNat * factor.toNat + carry.toNat ∧
      ((b.toUInt32 * factor + carry) >>> 8).toNat < factor.toNat := by
  have hb := b.toNat_lt
  obtain ⟨hpos, hle⟩ := hs
  have hbound : b.toNat * factor.toNat + carry.toNat < 256 * factor.toNat := by
    have := Nat.mul_le_mul_right factor.toNat (Nat.le_of_lt_succ hb)
    omega
  have hval : (b.toUInt32 * factor + carry).toNat = b.toNat * factor.toNat + carry.toNat := by
    rw [UInt32.toNat_add, UInt32.toNat_mul, UInt8.toNat_toUInt32, Nat.mod_add_mod]
    exact Nat.mod_eq_of_lt (by omega)
  refine ⟨hval, ?_⟩
  rw [toNat_high, hval]
  exact Nat.div_lt_of_lt_mul hbound

/-- Multiply and add multiplies the number and adds the carry. -/
theorem valueLE_multiplyAdd {factor carry : UInt32} (hs : Small factor) (hc : carry.toNat < factor.toNat)
    (bytes : List UInt8) :
    valueLE (multiplyAdd factor carry bytes) = factor.toNat * valueLE bytes + carry.toNat := by
  induction bytes generalizing carry with
  | nil => rw [multiplyAdd, valueLE_carryBytes, valueLE, Nat.mul_zero, Nat.zero_add]
  | cons b bs ih =>
    obtain ⟨hval, hcarry⟩ := toNat_product hs hc b
    rw [multiplyAdd, valueLE, ih hcarry, toNat_low, toNat_high, hval, valueLE]
    have hsplit := Nat.mod_add_div (b.toNat * factor.toNat + carry.toNat) 256
    calc _ = (b.toNat * factor.toNat + carry.toNat) % 256 + 256 * ((b.toNat * factor.toNat + carry.toNat) / 256) +
          256 * (factor.toNat * valueLE bs) := by ring
      _ = _ := by
          rw [hsplit]
          ring

/-- Multiply and add leaves no zero byte at the end of a number that has none there. -/
theorem getLast?_multiplyAdd {factor carry : UInt32} (hs : Small factor) (hc : carry.toNat < factor.toNat)
    {bytes : List UInt8} (h : bytes.getLast? ≠ some 0) : (multiplyAdd factor carry bytes).getLast? ≠ some 0 := by
  induction bytes generalizing carry with
  | nil =>
    rw [multiplyAdd]
    exact getLast?_carryBytes carry
  | cons b bs ih =>
    obtain ⟨hval, hcarry⟩ := toNat_product hs hc b
    rw [multiplyAdd]
    by_cases hnil : multiplyAdd factor ((b.toUInt32 * factor + carry) >>> 8) bs = []
    · -- Nothing stands behind this byte, so the whole product is in it; and the product is not zero.
      rw [hnil, List.getLast?_singleton]
      cases bs with
      | cons b' bs' => simp [multiplyAdd] at hnil
      | nil =>
        have hvalue := valueLE_carryBytes ((b.toUInt32 * factor + carry) >>> 8)
        rw [multiplyAdd] at hnil
        rw [hnil, valueLE, toNat_high, hval] at hvalue
        simp only [ne_eq, Option.some.injEq, List.getLast?_singleton] at h ⊢
        intro hlow
        have hz := toNat_low (b.toUInt32 * factor + carry)
        rw [hlow, UInt8.toNat_zero, hval] at hz
        have hb : 0 < b.toNat := Nat.pos_of_ne_zero fun z => h (UInt8.toNat_inj.mp z)
        have := Nat.mul_pos hb hs.1
        omega
    · rw [List.getLast?_cons_of_ne_nil hnil]
      refine ih hcarry ?_
      cases bs with
      | nil => simp
      | cons b' bs' => simpa [List.getLast?_cons_cons] using h

end KeyText.Radix
