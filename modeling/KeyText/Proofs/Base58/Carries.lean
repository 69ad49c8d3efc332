import KeyText.Proofs.Base58.Numeral
import KeyText.Text.Utf8

/-!
# The carries of multiply and add

Multiply and add goes through the bytes of a number with a carry (`carryFrom`). The carry stays below the factor however many
bytes there are, so no product leaves its word (`exactProduct`), and the carry behind the last byte is worth one byte at most.
So a number takes a digit of radix 58 in exactly, it grows by one byte at most, and no zero byte appears at its end; reading a
text of digits keeps it that way (`multiplyAdd_exact_minimal`).
-/

namespace KeyText.Radix

/-! ## Going through a number -/

/-- Multiplies the bytes of a number and adds a carry: the low bytes of the products, and the carry behind the last one. -/
def carryFrom (factor : UInt32) : UInt32 → List UInt8 → List UInt8 × UInt32
  | carry, [] => ([], carry)
  | carry, b :: bs =>
    let product := b.toUInt32 * factor + carry
    let (low, last) := carryFrom factor (product >>> 8) bs
    ((product &&& 0xFF).toUInt8 :: low, last)

@[simp] theorem length_carryFrom (factor carry : UInt32) (bytes : List UInt8) :
    (carryFrom factor carry bytes).1.length = bytes.length := by
  induction bytes generalizing carry with
  | nil => rfl
  | cons b bs ih => simp [carryFrom, ih]

/-- Multiply and add goes on behind some bytes with their carry. -/
theorem multiplyAdd_append (factor carry : UInt32) (front back : List UInt8) :
    multiplyAdd factor carry (front ++ back) =
      (carryFrom factor carry front).1 ++ multiplyAdd factor (carryFrom factor carry front).2 back := by
  induction front generalizing carry with
  | nil => rfl
  | cons b bs ih => simp only [List.cons_append, multiplyAdd, ih, carryFrom]

/-- Multiply and add leaves the low bytes of the products and then the bytes of the last carry. -/
theorem multiplyAdd_eq_append (factor carry : UInt32) (bytes : List UInt8) :
    multiplyAdd factor carry bytes =
      (carryFrom factor carry bytes).1 ++ carryBytes (carryFrom factor carry bytes).2 := by
  have h := multiplyAdd_append factor carry bytes []
  rwa [List.append_nil, multiplyAdd] at h

/-- A carry has no bytes only if it is zero. -/
theorem carryBytes_eq_nil_iff {carry : UInt32} : carryBytes carry = [] ↔ carry = 0 := by
  rw [carryBytes]
  split <;> simp_all

/-- A carry that fits in a byte has one byte at most. -/
theorem length_carryBytes_le {carry : UInt32} (h : carry.toNat < 256) : (carryBytes carry).length ≤ 1 := by
  rw [carryBytes]
  split
  · exact Nat.zero_le 1
  · have hhigh : carry >>> 8 = 0 := by
      rw [← UInt32.toNat_inj, toNat_high, UInt32.toNat_zero]
      exact Nat.div_eq_of_lt h
    rw [List.length_cons, carryBytes_eq_nil_iff.mpr hhigh]
    exact Nat.le_refl 1

/-- Nothing is left only of no bytes and no carry. -/
theorem multiplyAdd_eq_nil_iff {factor carry : UInt32} {bytes : List UInt8} :
    multiplyAdd factor carry bytes = [] ↔ bytes = [] ∧ carry = 0 := by
  cases bytes with
  | nil => rw [multiplyAdd, carryBytes_eq_nil_iff, and_iff_right rfl]
  | cons b bs => simp [multiplyAdd]

section

variable {factor carry : UInt32}

/-- The carry behind some bytes is below the factor. -/
theorem carryFrom_lt (hs : Small factor) (hc : carry.toNat < factor.toNat) (bytes : List UInt8) :
    (carryFrom factor carry bytes).2.toNat < factor.toNat := by
  induction bytes generalizing carry with
  | nil => exact hc
  | cons b bs ih => exact ih (toNat_product hs hc b).2

/-- A number that is multiplied by a factor of one byte does not lose bytes, and it grows by one at most. -/
theorem length_multiplyAdd (hpos : 0 < factor.toNat) (hle : factor.toNat ≤ 256) (hc : carry.toNat < factor.toNat)
    (bytes : List UInt8) :
    bytes.length ≤ (multiplyAdd factor carry bytes).length ∧
      (multiplyAdd factor carry bytes).length ≤ bytes.length + 1 := by
  -- What is carried out at the end is below a factor of one byte.
  have hlast := carryFrom_lt (small_of_le hpos hle) hc bytes
  have hone := length_carryBytes_le (Nat.lt_of_lt_of_le hlast hle)
  rw [multiplyAdd_eq_append, List.length_append, length_carryFrom]
  omega

/-! ## The product at one byte -/

/-- The word that multiply and add forms at a byte behind some others: its product and their carry. -/
def productAt (factor carry : UInt32) (front : List UInt8) (b : UInt8) : UInt32 :=
  b.toUInt32 * factor + (carryFrom factor carry front).2

/-- Multiply and add is exact at a byte behind some others and before some others. The carry that arrives there is below the
factor; neither the product nor the sum with the carry leaves its word; the low byte of the sum takes the place of the byte,
and the rest of it is carried on. -/
structure ExactProduct (factor carry : UInt32) (front : List UInt8) (b : UInt8) (back : List UInt8) : Prop where
  carry_lt : (carryFrom factor carry front).2.toNat < factor.toNat
  product : (b.toUInt32 * factor).toNat = b.toNat * factor.toNat
  sum : (productAt factor carry front b).toNat = b.toNat * factor.toNat + (carryFrom factor carry front).2.toNat
  place : multiplyAdd factor carry (front ++ b :: back) =
    (carryFrom factor carry front).1 ++ (productAt factor carry front b &&& 0xFF).toUInt8 ::
      multiplyAdd factor (productAt factor carry front b >>> 8) back

/-- Multiply and add is exact at every byte. -/
theorem exactProduct (hs : Small factor) (hc : carry.toNat < factor.toNat) (front : List UInt8) (b : UInt8)
    (back : List UInt8) : ExactProduct factor carry front b back := by
  have hcarry := carryFrom_lt hs hc front
  constructor
  case carry_lt => exact hcarry
  case product => simpa using (toNat_product hs hs.zero_lt b).1
  case sum => exact (toNat_product hs hcarry b).1
  case place => rw [multiplyAdd_append, multiplyAdd, productAt]

end

end KeyText.Radix

namespace KeyText.Base58

open Radix

/-! ## Digits of radix 58 -/

/-- A number takes a digit in. The digit stands behind it as one more place of radix 58, and that costs one byte at most. The
result has no zero byte at its end unless the number has one there, and it is empty only for an empty number and a zero. -/
structure TakesIn (number : List UInt8) (digit : UInt32) (result : List UInt8) : Prop where
  value : valueLE result = 58 * valueLE number + digit.toNat
  grows : number.length ≤ result.length
  length : result.length ≤ number.length + 1
  minimal : number.getLast? ≠ some 0 → result.getLast? ≠ some 0
  empty : result = [] ↔ number = [] ∧ digit = 0

/-- Multiply and add takes any digit of radix 58 in. -/
theorem takesIn_multiplyAdd {digit : UInt32} (h : digit.toNat < 58) (number : List UInt8) :
    TakesIn number digit (multiplyAdd radix digit number) := by
  have hbelow : digit.toNat < radix.toNat := h
  obtain ⟨hgrows, hlength⟩ := length_multiplyAdd (by decide) (by decide) hbelow number
  constructor
  case value => exact valueLE_multiplyAdd small_radix hbelow number
  case grows => exact hgrows
  case length => exact hlength
  case minimal => exact getLast?_multiplyAdd small_radix hbelow
  case empty => exact multiplyAdd_eq_nil_iff

/-- Reading the digits of a text onto a number leaves no zero byte at its end if it has none there, and lets it grow by one
byte for each digit at most. -/
theorem readDigits_minimal {text number result : List UInt8} {position : Nat}
    (h : readDigits number position text = .ok result) (hmin : number.getLast? ≠ some 0) :
    result.getLast? ≠ some 0 ∧ result.length ≤ number.length + text.length := by
  induction text generalizing number position with
  | nil =>
    cases h
    exact ⟨hmin, Nat.le_refl _⟩
  | cons byte text ih =>
    rw [readDigits] at h
    cases hdigit : digit? byte with
    | none =>
      rw [hdigit] at h
      cases h
    | some digit =>
      rw [hdigit] at h
      have step := takesIn_multiplyAdd (toNat_lt_of_digit? hdigit) number
      obtain ⟨hlast, hlength⟩ := ih h (step.minimal hmin)
      have hone := step.length
      rw [List.length_cons]
      exact ⟨hlast, by omega⟩

/-- Multiply and add is exact and keeps a number minimal, whatever the length of the number. It takes any digit of radix 58
in, and at every byte its words hold the numbers that they stand for. So a number without a zero byte at its end has none
there behind any text of digits either, and it has grown by one byte for each digit at most. -/
theorem multiplyAdd_exact_minimal (number : List UInt8) :
    (∀ digit : UInt32, digit.toNat < 58 →
      TakesIn number digit (multiplyAdd radix digit number) ∧
        ∀ front b back, number = front ++ b :: back → ExactProduct radix digit front b back) ∧
      ∀ text position result, readDigits number position text = .ok result → number.getLast? ≠ some 0 →
        result.getLast? ≠ some 0 ∧ result.length ≤ number.length + text.length := by
  constructor
  · intro digit hdigit
    exact ⟨takesIn_multiplyAdd hdigit number, fun front b back _ => exactProduct small_radix hdigit front b back⟩
  · intro text position result hread hmin
    exact readDigits_minimal hread hmin

/-- A last byte that makes a multiple of 256 with the carry before it: zero stays in its place, and the number ends with what
is carried on. -/
theorem multiplyAdd_exact_minimal_zero_low_byte :
    (57 : UInt32).toNat < 58 ∧ TakesIn [9, 75] 57 [67, 0, 17] ∧ [9, 75] = [9] ++ (75 : UInt8) :: [] ∧
      ExactProduct radix 57 [9] 75 [] ∧ readDigits [9, 75] 0 (Utf8.encode "z") = .ok [67, 0, 17] ∧
      ([9, 75] : List UInt8).getLast? ≠ some 0 ∧ ([67, 0, 17] : List UInt8).getLast? ≠ some 0 := by
  have hresult : multiplyAdd radix 57 [9, 75] = [67, 0, 17] := by
    decide +kernel
  have hread : readDigits [9, 75] 0 (Utf8.encode "z") = .ok [67, 0, 17] := by
    decide +kernel
  obtain ⟨hstep, hrun⟩ := multiplyAdd_exact_minimal [9, 75]
  obtain ⟨htakes, hexact⟩ := hstep 57 (by decide)
  rw [hresult] at htakes
  exact ⟨by decide, htakes, rfl, hexact [9] 75 [] rfl, hread, by decide, (hrun _ _ _ hread (by decide)).1⟩

end KeyText.Base58
