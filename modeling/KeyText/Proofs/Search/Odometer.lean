import KeyText.Search.Odometer
import Mathlib.Data.Nat.Digits.Lemmas
import Mathlib.Tactic.Ring

/-!
# Choices of symbols are enumerated in numeric order

`reading r k` is what an odometer of `r` wheels shows after `k` steps: the base-58 digits of `k`, most significant first. One
step goes from one reading to the next, and from the last back to zero with a carry (`increment_reading`). So the enumeration
yields the readings of `0, 1, …, 58 ^ r - 1` (`toList_start`), which are all digit vectors of the length
(`exists_reading_eq`).
-/

namespace KeyText.Odometer

/-- The `r` base-58 digits of a number below `58 ^ r`, most significant first. -/
def reading : (r k : Nat) → List UInt8
  | 0, _ => []
  | r + 1, k => UInt8.ofNat (k / 58 ^ r) :: reading r (k % 58 ^ r)

/-- A reading has a digit for each wheel. -/
@[simp] theorem length_reading (r k : Nat) : (reading r k).length = r := by
  induction r generalizing k with
  | zero => rfl
  | succ r ih => rw [reading, List.length_cons, ih]

/-- The first reading shows zeros. -/
theorem reading_zero (r : Nat) : reading r 0 = List.replicate r 0 := by
  induction r with
  | zero => rfl
  | succ r ih =>
    rw [reading, Nat.zero_div, Nat.zero_mod, ih, List.replicate_succ]
    rfl

/-- The leading digit of a number below `58 ^ (r + 1)` is a base-58 digit. -/
theorem toNat_leading_digit {r k : Nat} (h : k < 58 ^ (r + 1)) :
    k / 58 ^ r < 58 ∧ (UInt8.ofNat (k / 58 ^ r)).toNat = k / 58 ^ r := by
  have hlt : k / 58 ^ r < 58 := by
    apply Nat.div_lt_of_lt_mul
    rwa [← Nat.pow_succ]
  exact ⟨hlt, UInt8.toNat_ofNat_of_lt' (Nat.lt_trans hlt (by decide))⟩

/-- The digits of a reading are below 58. -/
theorem lt_of_mem_reading {r k : Nat} (h : k < 58 ^ r) {digit : UInt8} (hd : digit ∈ reading r k) : digit.toNat < 58 := by
  induction r generalizing k with
  | zero => simp [reading] at hd
  | succ r ih =>
    obtain ⟨hlt, hval⟩ := toNat_leading_digit h
    rcases List.mem_cons.mp hd with rfl | hd
    · rw [hval]
      exact hlt
    · exact ih (Nat.mod_lt _ (Nat.pow_pos (by decide))) hd

/-- Every vector of digits below 58 is a reading. -/
theorem exists_reading_eq {digits : List UInt8} (h : ∀ digit ∈ digits, digit.toNat < 58) :
    ∃ k < 58 ^ digits.length, reading digits.length k = digits := by
  induction digits with
  | nil => exact ⟨0, by simp, rfl⟩
  | cons digit digits ih =>
    obtain ⟨k, hk, hreading⟩ := ih fun d hd => h d (List.mem_cons_of_mem digit hd)
    have hd := h digit List.mem_cons_self
    have hpos : 0 < 58 ^ digits.length := Nat.pow_pos (by decide)
    refine ⟨digit.toNat * 58 ^ digits.length + k, ?_, ?_⟩
    · calc digit.toNat * 58 ^ digits.length + k
          < digit.toNat * 58 ^ digits.length + 58 ^ digits.length := Nat.add_lt_add_left hk _
        _ = (digit.toNat + 1) * 58 ^ digits.length := by ring
        _ ≤ 58 * 58 ^ digits.length := Nat.mul_le_mul_right _ hd
        _ = 58 ^ (digit :: digits).length := by
          rw [List.length_cons]
          ring
    · rw [List.length_cons, reading, Nat.mul_comm, Nat.mul_add_div hpos, Nat.div_eq_of_lt hk, Nat.mul_add_mod,
        Nat.mod_eq_of_lt hk, hreading, Nat.add_zero, UInt8.ofNat_toNat]

/-- A reading shows the number that it is the reading of. -/
theorem ofDigits_reading {r k : Nat} (h : k < 58 ^ r) : Nat.ofDigits 58 ((reading r k).map UInt8.toNat).reverse = k := by
  induction r generalizing k with
  | zero =>
    have : k = 0 := by simpa using h
    rw [this]
    rfl
  | succ r ih =>
    obtain ⟨-, hval⟩ := toNat_leading_digit h
    rw [reading, List.map_cons, Nat.ofDigits_reverse_cons, ih (Nat.mod_lt _ (Nat.pow_pos (by decide))), List.length_map,
      length_reading, hval, Nat.mod_add_div]

/-- The wheel of a digit below 57 goes on to the next digit; that of 57 does not. -/
theorem digit_add_one {d : Nat} (h : d < 58) :
    (UInt8.ofNat d).toUInt32 + 1 < Base58.radix ↔ d + 1 < 58 := by
  have hval : (UInt8.ofNat d).toNat = d := UInt8.toNat_ofNat_of_lt' (Nat.lt_trans h (by decide))
  rw [UInt32.lt_iff_toNat_lt, UInt32.toNat_add, UInt8.toNat_toUInt32, hval]
  have hone : (1 : UInt32).toNat = 1 := rfl
  have hradix : Base58.radix.toNat = 58 := rfl
  rw [hone, hradix, Nat.mod_eq_of_lt (by omega)]

/-- A step goes to the next reading, and from the last reading to zero with a carry. -/
theorem increment_reading {r k : Nat} (h : k < 58 ^ r) :
    increment (reading r k) = if k + 1 < 58 ^ r then (reading r (k + 1), false) else (reading r 0, true) := by
  induction r generalizing k with
  | zero =>
    have : k = 0 := by simpa using h
    subst this
    rfl
  | succ r ih =>
    have hpos : 0 < 58 ^ r := Nat.pow_pos (by decide)
    have hmod : k % 58 ^ r < 58 ^ r := Nat.mod_lt _ hpos
    have hsplit : 58 ^ r * (k / 58 ^ r) + k % 58 ^ r = k := Nat.div_add_mod k (58 ^ r)
    have hpow : 58 ^ (r + 1) = 58 ^ r * 58 := Nat.pow_succ 58 r
    obtain ⟨hlt, -⟩ := toNat_leading_digit h
    rw [reading, increment, ih hmod]
    by_cases hlower : k % 58 ^ r + 1 < 58 ^ r
    · -- The lower wheels go on and the leading one stands still.
      have hle : 58 ^ r * (k / 58 ^ r) ≤ 58 ^ r * 57 := Nat.mul_le_mul_left _ (Nat.le_of_lt_succ hlt)
      have hnext : k + 1 < 58 ^ (r + 1) := by omega
      have hk : k + 1 = 58 ^ r * (k / 58 ^ r) + (k % 58 ^ r + 1) := by omega
      rw [if_pos hlower, if_pos hnext, reading, hk, Nat.mul_add_div hpos, Nat.div_eq_of_lt hlower, Nat.mul_add_mod,
        Nat.mod_eq_of_lt hlower]
      rfl
    · -- The lower wheels go back to zero and carry into the leading one.
      have hlast : k % 58 ^ r + 1 = 58 ^ r := by omega
      have hk : k + 1 = 58 ^ r * (k / 58 ^ r + 1) := by
        rw [Nat.mul_add, Nat.mul_one]
        omega
      rw [if_neg hlower]
      simp only [digit_add_one hlt]
      by_cases hleading : k / 58 ^ r + 1 < 58
      · have hnext : k + 1 < 58 ^ (r + 1) := by
          rw [hk, hpow]
          exact Nat.mul_lt_mul_of_pos_left hleading hpos
        rw [if_pos hleading, if_pos hnext, reading, hk, Nat.mul_div_cancel_left _ hpos, Nat.mul_mod_right,
          UInt8.ofNat_add]
        rfl
      · have hdigit : k / 58 ^ r + 1 = 58 := by omega
        have hno : ¬k + 1 < 58 ^ (r + 1) := by
          rw [hk, hdigit, hpow]
          exact Nat.lt_irrefl _
        rw [if_neg hleading, if_neg hno, reading, Nat.zero_div, Nat.zero_mod]
        rfl

/-! ## The enumeration -/

/-- A draw from a reading yields it and goes on to the next; from the last one it goes back to zero and is done. -/
theorem next?_reading {r k : Nat} (h : k < 58 ^ r) :
    Enumeration.next? (⟨reading r k, false⟩ : Odometer) =
      some (reading r k, if k + 1 < 58 ^ r then ⟨reading r (k + 1), false⟩ else ⟨reading r 0, true⟩) := by
  have hinc := increment_reading h
  by_cases hnext : k + 1 < 58 ^ r
  · rw [if_pos hnext] at hinc ⊢
    simp [Enumeration.next?, next?, hinc]
  · rw [if_neg hnext] at hinc ⊢
    simp [Enumeration.next?, next?, hinc]

/-- From a reading, the enumeration yields it and the later ones. -/
theorem toList_reading {r k : Nat} (h : k < 58 ^ r) :
    Enumeration.toList (⟨reading r k, false⟩ : Odometer) = (List.range' k (58 ^ r - k)).map (reading r) := by
  obtain ⟨steps, hsteps⟩ : ∃ steps, 58 ^ r - k = steps + 1 := ⟨58 ^ r - k - 1, by omega⟩
  rw [Enumeration.toList_eq_cons (next?_reading h)]
  induction steps generalizing k with
  | zero =>
    have hlast : ¬k + 1 < 58 ^ r := by omega
    rw [if_neg hlast, Enumeration.toList_eq_nil rfl, hsteps]
    rfl
  | succ steps ih =>
    have hmore : k + 1 < 58 ^ r := by omega
    have hrest : 58 ^ r - (k + 1) = steps + 1 := by omega
    rw [if_pos hmore, Enumeration.toList_eq_cons (next?_reading hmore), ih hmore hrest, hrest, hsteps]
    rfl

/-- The enumeration of symbols yields all readings, in numeric order. -/
theorem toList_start (r : Nat) : Enumeration.toList (start r) = (List.range (58 ^ r)).map (reading r) := by
  have hpos : 0 < 58 ^ r := Nat.pow_pos (by decide)
  rw [start, ← reading_zero, toList_reading hpos, Nat.sub_zero, List.range_eq_range']

end KeyText.Odometer
