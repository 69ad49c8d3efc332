import KeyText.Proofs.Search.Positions
import KeyText.Search.Count
import Mathlib.Algebra.BigOperators.Intervals
import Mathlib.Data.Nat.Choose.Basic

/-!
# What the counts of candidates are

`total` is the number of candidates without a limit, and `candidates` is the lesser of it and the limit (`candidates_eq`). A
binomial coefficient stops at the limit already where a product on the way exceeds it, though the coefficient itself may not
(`binomial_saturation`, `binomial_saturates_early`). That does no harm to a level: the product is at most the coefficient times
the number of positions, and the number of ways to write symbols on so many positions is greater than they are.
-/

namespace KeyText.Count

/-- The number of candidates with at least one and at most the given number of changed positions, however many. -/
def total (length maxChanges : Nat) : Nat :=
  ∑ changes ∈ Finset.Icc 1 (min maxChanges length), length.choose changes * 58 ^ changes

/-- The limit is the greatest number of 128 bits. -/
theorem limit_eq : limit = 2 ^ 128 - 1 := by
  decide +kernel

/-- The numbers that keep to the limit are those of 128 bits. -/
theorem le_limit_iff {count : Nat} : count ≤ limit ↔ count < 2 ^ 128 := by
  rw [limit_eq]
  exact Nat.le_sub_one_iff_lt (by decide)

/-! ## Binomial coefficients -/

/-- Up to the middle of a row, binomial coefficients do not fall. -/
theorem choose_le_choose_of_le_half {n i j : Nat} (hij : i ≤ j) (hj : j ≤ n / 2) : n.choose i ≤ n.choose j := by
  induction j, hij using Nat.le_induction with
  | base => exact Nat.le_refl _
  | succ j hij ih => exact Nat.le_trans (ih (Nat.le_of_succ_le hj)) (Nat.choose_le_succ_of_lt_half_left hj)

/-- The factors lead from one coefficient in the first half of a row to a later one, if no product on the way exceeds the limit.
The product for a coefficient is the coefficient times its place. In the first half these products do not fall, so whether one of
them exceeds the limit is told by the last. -/
theorem binomialFrom_eq {n steps i : Nat} (hhalf : i + steps ≤ n / 2) (hstart : n.choose i * i ≤ limit) :
    binomialFrom n steps i (n.choose i) =
      if n.choose (i + steps) * (i + steps) ≤ limit then n.choose (i + steps) else limit := by
  induction steps generalizing i with
  | zero =>
    rw [Nat.add_zero, if_pos hstart]
    rfl
  | succ steps ih =>
    have hproduct : n.choose i * (n - i) = n.choose (i + 1) * (i + 1) := (Nat.choose_succ_right_eq n i).symm
    have hplace : i + 1 + steps = i + (steps + 1) := by omega
    rw [binomialFrom, hproduct, Nat.mul_div_cancel _ (Nat.succ_pos i)]
    by_cases hlimit : limit < n.choose (i + 1) * (i + 1)
    · have hlast : limit < n.choose (i + (steps + 1)) * (i + (steps + 1)) :=
        Nat.lt_of_lt_of_le hlimit (Nat.mul_le_mul (choose_le_choose_of_le_half (by omega) hhalf) (by omega))
      rw [if_pos hlimit, if_neg (Nat.not_le.mpr hlast)]
    · rw [if_neg hlimit, ← hplace]
      exact ih (by omega) (Nat.le_of_not_lt hlimit)

/-- The count of choices of `r` of `n` positions is the binomial coefficient as long as the last product for it, that of the
coefficient and the smaller of `r` and `n - r`, keeps to the limit; otherwise it is the limit. -/
theorem binomial_eq (n r : Nat) :
    binomial n r = if n.choose r * min r (n - r) ≤ limit then n.choose r else limit := by
  rw [binomial]
  by_cases h : n < r
  · rw [if_pos h, Nat.choose_eq_zero_of_lt h, Nat.zero_mul, if_pos (Nat.zero_le _)]
  · have hchoose : n.choose (min r (n - r)) = n.choose r := by
      rcases Nat.le_total r (n - r) with hle | hle
      · rw [Nat.min_eq_left hle]
      · rw [Nat.min_eq_right hle, Nat.choose_symm (Nat.le_of_not_lt h)]
    have hfrom : binomialFrom n (min r (n - r)) 0 (n.choose 0) = _ :=
      binomialFrom_eq (by omega) (by rw [Nat.mul_zero]; exact Nat.zero_le _)
    rw [Nat.choose_zero_right, Nat.zero_add, hchoose] at hfrom
    rw [if_neg h, hfrom]

/-- A coefficient whose last product keeps to the limit keeps to it as well. -/
theorem choose_le_limit {n r : Nat} (h : n.choose r * min r (n - r) ≤ limit) : n.choose r ≤ limit := by
  have hone : 1 ≤ limit := by decide +kernel
  rcases Nat.eq_zero_or_pos (min r (n - r)) with hzero | hpos
  · -- Without a product the coefficient is at an end of its row, where it is one, or behind it, where it is zero.
    rcases Nat.min_eq_zero_iff.mp hzero with rfl | hend
    · rwa [Nat.choose_zero_right]
    · rcases Nat.eq_or_lt_of_le (Nat.le_of_sub_eq_zero hend) with rfl | hlt
      · rwa [Nat.choose_self]
      · rw [Nat.choose_eq_zero_of_lt hlt]
        exact Nat.zero_le _
  · exact Nat.le_trans (Nat.le_mul_of_pos_right _ hpos) h

/-- There are as many choices of positions as the binomial coefficient says. They are counted exactly as long as their number
times the smaller of `r` and `n - r`, which is the greatest product on the way, has 128 bits; otherwise the count is the greatest
number of 128 bits. So it is the lesser of the coefficient and that number, except where the product is too great and the
coefficient is not. -/
theorem binomial_saturation (n r : Nat) :
    Enumeration.count (Positions.start n r) = n.choose r ∧
      binomial n r = (if n.choose r * min r (n - r) < 2 ^ 128 then n.choose r else 2 ^ 128 - 1) ∧
      (binomial n r = min (n.choose r) (2 ^ 128 - 1) ↔
        n.choose r * min r (n - r) < 2 ^ 128 ∨ 2 ^ 128 - 1 ≤ n.choose r) ∧
      (binomial n r = Enumeration.count (Positions.start n r) ↔
        n.choose r * min r (n - r) < 2 ^ 128 ∨ n.choose r = 2 ^ 128 - 1) := by
  have hcount : Enumeration.count (Positions.start n r) = n.choose r := by
    rw [Enumeration.count_eq_length, Positions.toList_start, Positions.length_choices, List.length_range]
  rw [hcount, binomial_eq]
  by_cases hfits : n.choose r * min r (n - r) < 2 ^ 128
  · have hlimit := le_limit_iff.mpr hfits
    have hle := choose_le_limit hlimit
    rw [limit_eq] at hle
    rw [if_pos hlimit, if_pos hfits, Nat.min_eq_left hle]
    exact ⟨rfl, rfl, iff_of_true rfl (Or.inl hfits), iff_of_true rfl (Or.inl hfits)⟩
  · rw [if_neg (le_limit_iff.not.mpr hfits), if_neg hfits, limit_eq, or_iff_right hfits, or_iff_right hfits]
    exact ⟨rfl, rfl, eq_comm.trans min_eq_right_iff, eq_comm⟩

/-- The count stops too early where 61 of 126 positions are chosen: the limit is more than 60 times the number of choices, but
less than 61 times. -/
theorem binomial_saturates_early :
    Nat.choose 126 61 = 5666455265885590046948855593854781050 ∧
      binomial 126 61 = 340282366920938463463374607431768211455 ∧
      binomial 126 61 ≠ min (Nat.choose 126 61) (2 ^ 128 - 1) ∧
      binomial 126 61 ≠ Enumeration.count (Positions.start 126 61) := by
  have hchoose : Nat.choose 126 61 = 5666455265885590046948855593854781050 := by
    rw [Nat.choose_eq_descFactorial_div_factorial]
    decide +kernel
  have hbinomial : binomial 126 61 = 340282366920938463463374607431768211455 := by
    decide +kernel
  have hcount := Enumeration.count_eq_length (Positions.start 126 61)
  rw [Positions.toList_start, Positions.length_choices, List.length_range, hchoose] at hcount
  rw [hcount, hchoose, hbinomial]
  exact ⟨rfl, rfl, by decide, by decide⟩

/-! ## Levels -/

/-- The count of symbols on `r` positions is the power of 58, or the limit, and then the power exceeds the limit. -/
theorem substitutions_eq_or (r : Nat) : substitutions r = 58 ^ r ∨ substitutions r = limit ∧ limit < 58 ^ r := by
  rw [substitutions]
  by_cases h : r < 22
  · rw [if_pos h]
    exact Or.inl rfl
  · rw [if_neg h]
    have hfirst : limit < 58 ^ 22 := by decide +kernel
    exact Or.inr ⟨rfl, Nat.lt_of_lt_of_le hfirst (Nat.pow_le_pow_right (by decide) (Nat.le_of_not_lt h))⟩

/-- The number of candidates of a level is counted exactly, up to the limit. Where the binomial coefficient is not, because a
product for it exceeds the limit, the level exceeds the limit as well. -/
theorem min_limit_level {n r : Nat} (h : r ≤ n) :
    min limit (binomial n r * substitutions r) = min limit (n.choose r * 58 ^ r) := by
  have hchoose : 0 < n.choose r := Nat.choose_pos h
  have hpower : min r (n - r) ≤ 58 ^ r := Nat.le_trans (Nat.min_le_left _ _) (Nat.le_of_lt (Nat.lt_pow_self (by decide)))
  rw [binomial_eq]
  by_cases hfits : n.choose r * min r (n - r) ≤ limit
  · rw [if_pos hfits]
    rcases substitutions_eq_or r with hsymbols | ⟨hsymbols, hlarge⟩
    · rw [hsymbols]
    · rw [hsymbols, Nat.min_eq_left (Nat.le_mul_of_pos_left _ hchoose), Nat.min_eq_left]
      exact Nat.le_trans (Nat.le_of_lt hlarge) (Nat.le_mul_of_pos_left _ hchoose)
  · have hsome : 0 < substitutions r := by
      rcases substitutions_eq_or r with heq | ⟨heq, -⟩ <;> rw [heq]
      · exact Nat.pow_pos (by decide)
      · decide +kernel
    rw [if_neg hfits, Nat.min_eq_left (Nat.le_mul_of_pos_right _ hsome), Nat.min_eq_left]
    exact Nat.le_trans (Nat.le_of_not_le hfits) (Nat.mul_le_mul_left _ hpower)

/-! ## All candidates -/

/-- Adding levels to a count keeps it exact, up to the limit. -/
theorem candidatesFrom_eq {length steps changes count : Nat} (hcount : count ≤ limit)
    (hlevels : changes + steps ≤ length + 1) :
    candidatesFrom length steps changes count =
      min limit (count + ((List.range' changes steps).map fun r => length.choose r * 58 ^ r).sum) := by
  induction steps generalizing changes count with
  | zero => exact (Nat.min_eq_right hcount).symm
  | succ steps ih =>
    rw [candidatesFrom, List.range'_succ, List.map_cons, List.sum_cons]
    by_cases hfull : limit ≤ count
    · rw [if_pos hfull, Nat.min_eq_left (Nat.le_trans hfull (Nat.le_add_right _ _))]
    · rw [if_neg hfull]
      dsimp only
      rw [ih (Nat.min_le_left _ _) (by omega), min_limit_level (by omega)]
      omega

/-- The count of candidates is their number, or the limit if there are more. -/
theorem candidates_eq (length maxChanges : Nat) : candidates length maxChanges = min limit (total length maxChanges) := by
  rw [candidates, candidatesFrom_eq (Nat.zero_le _) (by omega), Nat.zero_add, total, Nat.Icc_eq_range']
  rfl

end KeyText.Count
