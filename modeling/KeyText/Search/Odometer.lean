import KeyText.Base58.Alphabet
import KeyText.Search.Enumeration

/-!
# Choices of symbols

The base-58 digit vectors of a length in numeric order, the last digit moving fastest, like the wheels of an odometer.
-/

namespace KeyText

/-- A state of the enumeration: the digits that come next, most significant first, and whether all were drawn. -/
structure Odometer where
  digits : List UInt8
  done : Bool
  deriving DecidableEq, Repr

namespace Odometer

/-- The state before the first vector. -/
def start (count : Nat) : Odometer :=
  ⟨List.replicate count 0, false⟩

/-- Adds one, and says whether a carry is left: then every digit went back to zero. -/
def increment : List UInt8 → List UInt8 × Bool
  | [] => ([], true)
  | digit :: digits =>
    match increment digits with
    | (lower, false) => (digit :: lower, false)
    | (lower, true) => if digit.toUInt32 + 1 < Base58.radix then ((digit + 1) :: lower, false) else (0 :: lower, true)

/-- Draws a vector. Behind the last one every digit is zero and the state is done. -/
def next? (s : Odometer) : Option (List UInt8 × Odometer) :=
  if s.done then none
  else
    let (digits, carry) := increment s.digits
    some (s.digits, ⟨digits, carry⟩)

/-- How far digits are from the greatest vector. -/
def distance : List UInt8 → Nat
  | [] => 0
  | digit :: digits => (57 - digit.toNat) * Nat.pow 58 digits.length + distance digits

theorem distance_lt (digits : List UInt8) : distance digits < Nat.pow 58 digits.length := by
  induction digits with
  | nil => simp [distance]
  | cons digit digits ih =>
    have : (57 - digit.toNat) * 58 ^ digits.length ≤ 57 * 58 ^ digits.length :=
      Nat.mul_le_mul_right _ (Nat.sub_le _ _)
    simp only [distance, List.length_cons, Nat.pow_eq, Nat.pow_succ] at ih ⊢
    omega

/-- Adding one keeps the number of digits. -/
@[simp] theorem length_increment (digits : List UInt8) : (increment digits).1.length = digits.length := by
  induction digits with
  | nil => rfl
  | cons digit digits ih =>
    simp only [increment]
    split
    · rename_i lower h
      simpa [h] using ih
    · rename_i lower h
      split <;> simpa [h] using ih

/-- Adding one without a carry comes nearer to the greatest vector. -/
theorem distance_increment_lt {digits : List UInt8} (h : (increment digits).2 = false) :
    distance (increment digits).1 < distance digits := by
  induction digits with
  | nil => simp [increment] at h
  | cons digit digits ih =>
    have same := length_increment digits
    simp only [increment] at h ⊢
    split
    · rename_i lower hl
      rw [hl] at ih same
      simpa [distance, same] using ih rfl
    · rename_i lower hl
      rw [hl] at same
      simp only [hl] at h
      split
      · rename_i small
        have less : digit.toNat < 57 := by
          have := digit.toNat_lt
          simp only [UInt32.lt_iff_toNat_lt, Base58.radix, UInt32.toNat_add, UInt8.toNat_toUInt32] at small
          simp at small
          omega
        have value : (digit + 1).toNat = digit.toNat + 1 := by
          simp only [UInt8.toNat_add]
          simp
          omega
        have tail := distance_lt lower
        have step : 57 - digit.toNat = 57 - (digit.toNat + 1) + 1 := by omega
        simp only [distance, value, same] at tail ⊢
        rw [step, Nat.succ_mul]
        omega
      · rename_i large
        simp [large] at h

instance : Enumeration Odometer (List UInt8) where
  next? := next?
  bound s := if s.done then 0 else distance s.digits + 1
  bound_lt {s rest item} h := by
    unfold next? at h
    split at h
    · cases h
    · rename_i more
      cases h
      cases carry : (increment s.digits).2 with
      | true => simp [more]
      | false => simpa [more] using distance_increment_lt carry

end Odometer

end KeyText
