import Mathlib.Data.Nat.Digits.Lemmas

/-!
# Digit strings in two radices

A digit string, most significant digit first, is a number of leading zeros and the number that the other digits write.
`reradix` keeps the leading zeros and writes the number in another radix. Going to another radix and back gives the string one
began with (`reradix_reradix`), so no string is lost and none is written in two ways. Both directions of Base58 are this one
conversion, with the radices exchanged.
-/

namespace KeyText.Base58

/-- Writes a digit string of radix `b` in radix `c`: as many leading zeros, then the number in as few digits as it has. -/
def reradix (b c : Nat) (ds : List Nat) : List Nat :=
  List.replicate (ds.takeWhile (· == 0)).length 0 ++ (Nat.digits c (Nat.ofDigits b ds.reverse)).reverse

/-! ## Leading zeros -/

/-- A digit string is its leading zeros and the rest. -/
theorem replicate_zero_append_dropWhile (ds : List Nat) :
    List.replicate (ds.takeWhile (· == 0)).length 0 ++ ds.dropWhile (· == 0) = ds := by
  have h : ds.takeWhile (· == 0) = List.replicate (ds.takeWhile (· == 0)).length 0 := by
    apply List.eq_replicate_of_mem
    intro d hd
    simpa using List.all_eq_true.mp List.all_takeWhile d hd
  rw [← h, List.takeWhile_append_dropWhile]

/-- What is left behind the first stretch of an element does not begin with it. -/
theorem head?_dropWhile_beq {α : Type} [BEq α] [LawfulBEq α] (a : α) (l : List α) :
    (l.dropWhile (· == a)).head? ≠ some a := by
  intro h
  have := List.head?_dropWhile_not (· == a) l
  rw [h] at this
  simp at this

/-- Copies of an element before a list that does not begin with it are the first stretch of that element. -/
theorem takeWhile_replicate_append {α : Type} [BEq α] [LawfulBEq α] {a : α} {l : List α} (z : Nat)
    (h : l.head? ≠ some a) : (List.replicate z a ++ l).takeWhile (· == a) = List.replicate z a := by
  rw [List.takeWhile_append_of_pos (by simp)]
  cases l with
  | nil => simp
  | cons b l =>
    have hb : b ≠ a := by simpa using h
    simp [hb]

/-- Behind that stretch stands the list. -/
theorem dropWhile_replicate_append {α : Type} [BEq α] [LawfulBEq α] {a : α} {l : List α} (z : Nat)
    (h : l.head? ≠ some a) : (List.replicate z a ++ l).dropWhile (· == a) = l := by
  rw [List.dropWhile_append_of_pos (by simp)]
  cases l with
  | nil => simp
  | cons b l =>
    have hb : b ≠ a := by simpa using h
    simp [hb]

/-- The digits behind the leading zeros are below the radix as well. -/
theorem lt_of_mem_dropWhile {b : Nat} {ds : List Nat} (hlt : ∀ d ∈ ds, d < b) : ∀ d ∈ ds.dropWhile (· == 0), d < b :=
  fun d hd => hlt d ((List.dropWhile_sublist _).subset hd)

/-- Leading zeros do not change the number. -/
theorem ofDigits_reverse_dropWhile (b : Nat) (ds : List Nat) :
    Nat.ofDigits b (ds.dropWhile (· == 0)).reverse = Nat.ofDigits b ds.reverse := by
  conv_rhs => rw [← replicate_zero_append_dropWhile ds, List.reverse_append, List.reverse_replicate]
  rw [Nat.ofDigits_append_replicate_zero]

/-- The shortest numeral of a number does not begin with a zero. -/
theorem head?_reverse_digits (b n : Nat) : (Nat.digits b n).reverse.head? ≠ some 0 := by
  rw [List.head?_reverse]
  intro h
  by_cases hn : n = 0
  · simp [hn] at h
  · obtain ⟨hne, hlast⟩ := List.mem_getLast?_eq_getLast h
    exact Nat.getLast_digit_ne_zero b hn hlast.symm

/-- A string that does not begin with a zero is the shortest numeral of the number that it writes. -/
theorem digits_ofDigits_reverse {b : Nat} (hb : 1 < b) {ds : List Nat} (hlt : ∀ d ∈ ds, d < b)
    (h : ds.head? ≠ some 0) : (Nat.digits b (Nat.ofDigits b ds.reverse)).reverse = ds := by
  rw [Nat.digits_ofDigits b hb ds.reverse (by simpa using hlt), List.reverse_reverse]
  intro hne hlast
  apply h
  rw [← List.getLast?_reverse, List.getLast?_eq_some_getLast hne, hlast]

/-! ## Conversion -/

/-- The converted string has as many leading zeros. -/
theorem takeWhile_reradix (b c : Nat) (ds : List Nat) :
    (reradix b c ds).takeWhile (· == 0) = List.replicate (ds.takeWhile (· == 0)).length 0 :=
  takeWhile_replicate_append _ (head?_reverse_digits c _)

/-- The converted string writes the same number. -/
theorem ofDigits_reradix (b c : Nat) (ds : List Nat) :
    Nat.ofDigits c (reradix b c ds).reverse = Nat.ofDigits b ds.reverse := by
  rw [reradix, List.reverse_append, List.reverse_replicate, List.reverse_reverse, Nat.ofDigits_append_replicate_zero,
    Nat.ofDigits_digits]

/-- The digits of a converted string are below its radix. -/
theorem lt_of_mem_reradix {b c : Nat} (hc : 1 < c) {ds : List Nat} {d : Nat} (h : d ∈ reradix b c ds) : d < c := by
  rcases List.mem_append.mp h with h | h
  · rw [List.eq_of_mem_replicate h]
    omega
  · exact Nat.digits_lt_base hc (List.mem_reverse.mp h)

/-- Going to another radix and back gives the string one began with. -/
theorem reradix_reradix {b c : Nat} (hb : 1 < b) {ds : List Nat} (hlt : ∀ d ∈ ds, d < b) :
    reradix c b (reradix b c ds) = ds := by
  calc reradix c b (reradix b c ds)
      = List.replicate (ds.takeWhile (· == 0)).length 0 ++ (Nat.digits b (Nat.ofDigits b ds.reverse)).reverse := by
        rw [reradix, takeWhile_reradix, List.length_replicate, ofDigits_reradix]
    _ = List.replicate (ds.takeWhile (· == 0)).length 0 ++ ds.dropWhile (· == 0) := by
        rw [← ofDigits_reverse_dropWhile, digits_ofDigits_reverse hb (lt_of_mem_dropWhile hlt) (head?_dropWhile_beq 0 ds)]
    _ = ds := replicate_zero_append_dropWhile ds

/-! ## Lengths -/

/-- A converted string has its leading zeros, and then at most as many digits as are worth what the other digits can write. -/
theorem length_reradix_le_add {b c k : Nat} (hb : 1 < b) (hc : 1 < c) {ds : List Nat} (hlt : ∀ d ∈ ds, d < b)
    (hpow : b ^ (ds.dropWhile (· == 0)).length ≤ c ^ k) :
    (reradix b c ds).length ≤ (ds.takeWhile (· == 0)).length + k := by
  have hrest : ∀ d ∈ (ds.dropWhile (· == 0)).reverse, d < b :=
    fun d hd => lt_of_mem_dropWhile hlt d (List.mem_reverse.mp hd)
  have hvalue : Nat.ofDigits b ds.reverse < c ^ k := by
    rw [← ofDigits_reverse_dropWhile]
    calc Nat.ofDigits b (ds.dropWhile (· == 0)).reverse
        < b ^ (ds.dropWhile (· == 0)).reverse.length := Nat.ofDigits_lt_base_pow_length hb hrest
      _ ≤ c ^ k := by rwa [List.length_reverse]
  rw [reradix, List.length_append, List.length_replicate, List.length_reverse]
  exact Nat.add_le_add_left ((Nat.digits_length_le_iff hc _).mpr hvalue) _

/-- A digit string is as long as its leading zeros and the rest. -/
theorem length_takeWhile_add_dropWhile (ds : List Nat) :
    (ds.takeWhile (· == 0)).length + (ds.dropWhile (· == 0)).length = ds.length := by
  rw [← List.length_append, List.takeWhile_append_dropWhile]

/-- In a radix that is not smaller a string is not longer. -/
theorem length_reradix_le {b c : Nat} (hb : 1 < b) (hbc : b ≤ c) {ds : List Nat} (hlt : ∀ d ∈ ds, d < b) :
    (reradix b c ds).length ≤ ds.length := by
  rw [← length_takeWhile_add_dropWhile ds]
  exact length_reradix_le_add hb (Nat.lt_of_lt_of_le hb hbc) hlt (Nat.pow_le_pow_left hbc _)

/-- Where `p` digits of one radix are worth no more than `q` of another, `m` digits are worth no more than `m * q / p` of the
other, rounded down, and one. -/
theorem pow_le_pow_mul_div {b c p q : Nat} (hc : 0 < c) (hp : 0 < p) (hpow : b ^ p ≤ c ^ q) (m : Nat) :
    b ^ m ≤ c ^ (m * q / p + 1) := by
  -- The `p`-th powers are compared instead, whose exponents are whole multiples.
  have hexponent : m * q ≤ (m * q / p + 1) * p := by
    rw [Nat.mul_comm _ p]
    exact Nat.le_of_lt (Nat.lt_mul_div_succ _ hp)
  apply (Nat.pow_le_pow_iff_left (Nat.pos_iff_ne_zero.mp hp)).mp
  calc (b ^ m) ^ p = (b ^ p) ^ m := Nat.pow_right_comm b m p
    _ ≤ (c ^ q) ^ m := Nat.pow_le_pow_left hpow m
    _ = c ^ (m * q) := by rw [← Nat.pow_mul, Nat.mul_comm]
    _ ≤ c ^ ((m * q / p + 1) * p) := Nat.pow_le_pow_right hc hexponent
    _ = (c ^ (m * q / p + 1)) ^ p := Nat.pow_mul ..

/-- A string of so many digits is not longer in the other radix than these digits are worth there. A leading zero becomes one
digit, so a digit must be worth at least one. -/
theorem length_reradix_le_mul_div {b c p q : Nat} (hb : 1 < b) (hc : 1 < c) (hp : 0 < p) (hpq : p ≤ q)
    (hpow : b ^ p ≤ c ^ q) {ds : List Nat} (hlt : ∀ d ∈ ds, d < b) :
    (reradix b c ds).length ≤ ds.length * q / p + 1 := by
  have hsplit := length_takeWhile_add_dropWhile ds
  have hlength := length_reradix_le_add hb hc hlt (pow_le_pow_mul_div (Nat.lt_of_succ_lt hc) hp hpow _)
  generalize (ds.takeWhile (· == 0)).length = zeros at hsplit hlength
  generalize (ds.dropWhile (· == 0)).length = rest at hsplit hlength
  have hzeros : zeros + rest * q / p ≤ ds.length * q / p := by
    rw [Nat.le_div_iff_mul_le hp, ← hsplit, Nat.add_mul, Nat.add_mul]
    exact Nat.add_le_add (Nat.mul_le_mul_left zeros hpq) (Nat.div_mul_le_self _ _)
  calc (reradix b c ds).length ≤ zeros + (rest * q / p + 1) := hlength
    _ ≤ ds.length * q / p + 1 := Nat.add_le_add_right hzeros 1

end KeyText.Base58
