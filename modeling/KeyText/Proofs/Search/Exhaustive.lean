import KeyText.Proofs.Search.Count
import KeyText.Proofs.Search.Drawing
import KeyText.Proofs.Search.Odometer

/-!
# The enumerations are exhaustive

Draw by draw, the choices of positions are the ascending lists of so many positions, each once and in lexicographic order
(`Positions.draws_every_choice`), and the choices of symbols count in base 58 (`Odometer.draws_every_numeral`). An odometer that
has gone round shows zeros again, as at the start, and is told from the start by being done alone.
-/

namespace KeyText

/-! ## Choices of positions -/

namespace Positions

/-- The items are the ascending lists of so many positions. -/
theorem mem_toList_start_iff {n r : Nat} {xs : List Nat} :
    xs ∈ Enumeration.toList (start n r) ↔ xs.Pairwise (· < ·) ∧ (∀ x ∈ xs, x < n) ∧ xs.length = r := by
  rw [toList_start]
  exact mem_choices_range_iff

/-- They come in lexicographic order. -/
theorem pairwise_lt_toList_start (n r : Nat) : (Enumeration.toList (start n r)).Pairwise (· < ·) := by
  rw [toList_start]
  exact pairwise_lt_choices List.pairwise_lt_range r

/-- There are as many items as choices. -/
theorem length_toList_start (n r : Nat) : (Enumeration.toList (start n r)).length = n.choose r := by
  rw [toList_start, length_choices, List.length_range]

/-- The draws from the choices of `r` of `n` positions yield the ascending lists of `r` positions below `n`, each once and in
lexicographic order: as many as the binomial coefficient says, the empty list alone where no position is chosen, and nothing where
more are chosen than there are. Behind the last one a draw yields nothing and leaves the state as it is. In every copy that a mix
of draws, skips, takes and copies leads to, as many items are left as were not drawn on the way to it, and the next one is the one
at that place. -/
theorem draws_every_choice (n r : Nat) :
    let all := Enumeration.toList (start n r)
    (∀ k, (Enumeration.draw (Enumeration.after k (start n r))).1 = all[k]?) ∧
      (∀ xs, xs ∈ all ↔ xs.Pairwise (· < ·) ∧ (∀ x ∈ xs, x < n) ∧ xs.length = r) ∧
      all.Nodup ∧ all.Pairwise (· < ·) ∧ all.length = n.choose r ∧
      Enumeration.toList (start n 0) = [[]] ∧ (n < r → all = []) ∧
      (∀ k, n.choose r ≤ k →
        Enumeration.draw (Enumeration.after k (start n r)) = (none, Enumeration.after k (start n r))) ∧
      ∀ uses, (Enumeration.copiesAfter uses [(⟨start n r, 0⟩ : Enumeration.Counted Positions)]).map (·.state) =
          Enumeration.copiesAfter uses [start n r] ∧
        ∀ copy ∈ Enumeration.copiesAfter uses [(⟨start n r, 0⟩ : Enumeration.Counted Positions)],
          copy.drawn ≤ n.choose r ∧ Enumeration.count copy.state = n.choose r - copy.drawn ∧
            (Enumeration.draw copy.state).1 = all[copy.drawn]? := by
  intro all
  have hsorted : all.Pairwise (· < ·) := pairwise_lt_toList_start n r
  have hlength : all.length = n.choose r := length_toList_start n r
  refine ⟨?_, fun xs => mem_toList_start_iff, hsorted.imp ne_of_lt, hsorted, hlength, ?_, ?_, ?_, ?_⟩
  · intro k
    exact Enumeration.fst_draw_after k (start n r)
  · rw [toList_start, choices]
  · intro hfew
    apply List.eq_nil_of_length_eq_zero
    rw [hlength, Nat.choose_eq_zero_of_lt hfew]
  · intro k hk
    apply Enumeration.draw_after_of_length_le
    rwa [length_toList_start]
  · intro uses
    refine ⟨Enumeration.map_state_copiesAfter uses _, ?_⟩
    intro copy hcopy
    obtain ⟨hdrawn, hleft⟩ := Enumeration.left_of_mem_copiesAfter hcopy
    rw [length_toList_start] at hdrawn
    refine ⟨hdrawn, ?_, ?_⟩
    · rw [Enumeration.count_eq_length, hleft, List.length_drop, length_toList_start]
    · rw [Enumeration.fst_draw, hleft, List.head?_drop]

/-- Two of four positions, where a copy is made behind one draw, three items are drawn from the copy and one from the other; what
there is behind the last item; and three of two positions. -/
theorem draws_every_choice_two_of_four :
    (⟨⟨4, [1, 3], false⟩, 4⟩ : Enumeration.Counted Positions) ∈
        Enumeration.copiesAfter [.draw 0, .copy 0, .drawNth 1 2, .take 0 1] [⟨start 4 2, 0⟩] ∧
      Enumeration.count (⟨4, [1, 3], false⟩ : Positions) = Nat.choose 4 2 - 4 ∧
      (Enumeration.draw (⟨4, [1, 3], false⟩ : Positions)).1 = (Enumeration.toList (start 4 2))[4]? ∧
      Nat.choose 4 2 ≤ 7 ∧
      Enumeration.draw (Enumeration.after 7 (start 4 2)) = (none, Enumeration.after 7 (start 4 2)) ∧
      2 < 3 ∧ Enumeration.toList (start 2 3) = [] := by
  have hcopy : (⟨⟨4, [1, 3], false⟩, 4⟩ : Enumeration.Counted Positions) ∈
      Enumeration.copiesAfter [.draw 0, .copy 0, .drawNth 1 2, .take 0 1] [⟨start 4 2, 0⟩] :=
    List.mem_cons_of_mem (⟨⟨4, [0, 3], false⟩, 2⟩ : Enumeration.Counted Positions) (List.mem_singleton.mpr rfl)
  have hend : Nat.choose 4 2 ≤ 7 := by decide
  have hfew : 2 < 3 := by decide
  obtain ⟨-, -, -, -, -, -, -, hdone, hcopies⟩ := draws_every_choice 4 2
  obtain ⟨-, -, -, -, -, -, hnone, -, -⟩ := draws_every_choice 2 3
  obtain ⟨-, hcount, hnext⟩ := (hcopies _).2 _ hcopy
  exact ⟨hcopy, hcount, hnext, hend, hdone 7 hend, hfew, hnone hfew⟩

end Positions

/-! ## Choices of symbols -/

namespace Odometer

/-- There are as many items as numbers with so many digits. -/
theorem length_toList_start (r : Nat) : (Enumeration.toList (start r)).length = 58 ^ r := by
  rw [toList_start, List.length_map, List.length_range]

/-- Behind so many draws an odometer shows their number. -/
theorem after_start {r k : Nat} (h : k < 58 ^ r) : Enumeration.after k (start r) = ⟨reading r k, false⟩ := by
  induction k with
  | zero => rw [Enumeration.after, start, reading_zero]
  | succ k ih =>
    have hk : k < 58 ^ r := Nat.lt_of_succ_lt h
    rw [Enumeration.after_add k 1, ih hk, Enumeration.after, Enumeration.after, Enumeration.draw_eq_some (next?_reading hk),
      if_pos h]

/-- Behind all draws it has gone round and is done. -/
theorem after_start_of_le {r k : Nat} (h : 58 ^ r ≤ k) :
    Enumeration.after k (start r) = ⟨List.replicate r 0, true⟩ := by
  obtain ⟨last, hlast⟩ : ∃ last, 58 ^ r = last + 1 := Nat.exists_eq_add_one.mpr (Nat.pow_pos (by decide))
  have hlt : last < 58 ^ r := by omega
  have hround : ¬last + 1 < 58 ^ r := by omega
  rw [Enumeration.after_eq_of_length_le (by rwa [length_toList_start]), length_toList_start, hlast,
    Enumeration.after_add last 1, after_start hlt, Enumeration.after, Enumeration.after,
    Enumeration.draw_eq_some (next?_reading hlt), if_neg hround, reading_zero]

/-- The reading of a greater number comes later in lexicographic order. -/
theorem reading_lt_reading {r j k : Nat} (hjk : j < k) (hk : k < 58 ^ r) : reading r j < reading r k := by
  induction r generalizing j k with
  | zero =>
    rw [Nat.pow_zero] at hk
    omega
  | succ r ih =>
    have hpos : 0 < 58 ^ r := Nat.pow_pos (by decide)
    obtain ⟨-, hj⟩ := toNat_leading_digit (Nat.lt_trans hjk hk)
    obtain ⟨-, hk'⟩ := toNat_leading_digit hk
    rw [reading, reading]
    rcases Nat.lt_or_eq_of_le (Nat.div_le_div_right (c := 58 ^ r) (Nat.le_of_lt hjk)) with hless | hsame
    · apply List.Lex.rel
      rwa [UInt8.lt_iff_toNat_lt, hj, hk']
    · -- With the same leading digit, the others decide.
      rw [hsame]
      apply List.cons_lt_cons_self.mpr
      apply ih _ (Nat.mod_lt k hpos)
      have hdivj := Nat.div_add_mod j (58 ^ r)
      have hdivk := Nat.div_add_mod k (58 ^ r)
      rw [hsame] at hdivj
      omega

/-- The items are the digit vectors of the length. -/
theorem mem_toList_start_iff {r : Nat} {digits : List UInt8} :
    digits ∈ Enumeration.toList (start r) ↔ digits.length = r ∧ ∀ digit ∈ digits, digit.toNat < 58 := by
  rw [toList_start, List.mem_map]
  constructor
  · rintro ⟨k, hk, rfl⟩
    exact ⟨length_reading r k, fun digit => lt_of_mem_reading (List.mem_range.mp hk)⟩
  · rintro ⟨rfl, hlt⟩
    obtain ⟨k, hk, hreading⟩ := exists_reading_eq hlt
    exact ⟨k, List.mem_range.mpr hk, hreading⟩

/-- They come in ascending order. -/
theorem pairwise_lt_toList_start (r : Nat) : (Enumeration.toList (start r)).Pairwise (· < ·) := by
  rw [toList_start, List.pairwise_map]
  refine List.pairwise_lt_range.imp_of_mem ?_
  intro j k _ hk hjk
  exact reading_lt_reading hjk (List.mem_range.mp hk)

/-- The draws from an odometer of `r` wheels count in base 58: behind `k` others, a draw yields the `r` digits of `k`, most
significant first. Behind `58 ^ r` draws the wheels show zeros and the odometer is done; from there on a draw yields nothing and
leaves it as it is. So the items are all vectors of `r` digits below 58, each once and in ascending order, and as many as are
counted, where their number has 128 bits. -/
theorem draws_every_numeral (r : Nat) :
    let all := Enumeration.toList (start r)
    (∀ k, (Enumeration.draw (Enumeration.after k (start r))).1 = all[k]?) ∧
      (∀ k < 58 ^ r, ∃ digits, (Enumeration.draw (Enumeration.after k (start r))).1 = some digits ∧ digits.length = r ∧
        (∀ digit ∈ digits, digit.toNat < 58) ∧ Nat.ofDigits 58 (digits.map UInt8.toNat).reverse = k) ∧
      (∀ k, 58 ^ r ≤ k → Enumeration.after k (start r) = ⟨List.replicate r 0, true⟩ ∧
        Enumeration.draw (Enumeration.after k (start r)) = (none, Enumeration.after k (start r))) ∧
      (∀ digits, digits ∈ all ↔ digits.length = r ∧ ∀ digit ∈ digits, digit.toNat < 58) ∧
      all.Nodup ∧ all.Pairwise (· < ·) ∧ all.length = 58 ^ r ∧
      (58 ^ r < 2 ^ 128 → Count.substitutions r = all.length) := by
  intro all
  have hsorted : all.Pairwise (· < ·) := pairwise_lt_toList_start r
  have honce : all.Nodup := by
    refine hsorted.imp ?_
    rintro digits _ hlt rfl
    exact List.lt_irrefl digits hlt
  have hlength : all.length = 58 ^ r := length_toList_start r
  refine ⟨?_, ?_, ?_, fun digits => mem_toList_start_iff, honce, hsorted, hlength, ?_⟩
  · intro k
    exact Enumeration.fst_draw_after k (start r)
  · intro k hk
    refine ⟨reading r k, ?_, length_reading r k, fun digit => lt_of_mem_reading hk, ofDigits_reading hk⟩
    rw [after_start hk, Enumeration.draw_eq_some (next?_reading hk)]
  · intro k hk
    refine ⟨after_start_of_le hk, ?_⟩
    apply Enumeration.draw_after_of_length_le
    rwa [length_toList_start]
  · intro hfits
    rw [hlength]
    rcases Count.substitutions_eq_or r with hcount | ⟨-, hlarge⟩
    · exact hcount
    · exact absurd (Count.le_limit_iff.mpr hfits) (Nat.not_le.mpr hlarge)

/-- Two wheels behind 58 draws, where the leading one has moved on, and behind all. -/
theorem draws_every_numeral_two_wheels :
    58 < 58 ^ 2 ∧
      (∃ digits, (Enumeration.draw (Enumeration.after 58 (start 2))).1 = some digits ∧ digits.length = 2 ∧
        (∀ digit ∈ digits, digit.toNat < 58) ∧ Nat.ofDigits 58 (digits.map UInt8.toNat).reverse = 58) ∧
      58 ^ 2 ≤ 3364 ∧ Enumeration.after 3364 (start 2) = ⟨[0, 0], true⟩ ∧
      Enumeration.draw (Enumeration.after 3364 (start 2)) = (none, Enumeration.after 3364 (start 2)) ∧
      58 ^ 2 < 2 ^ 128 ∧ Count.substitutions 2 = (Enumeration.toList (start 2)).length := by
  have hmore : 58 < 58 ^ 2 := by decide
  have hend : 58 ^ 2 ≤ 3364 := by decide
  have hfits : 58 ^ 2 < 2 ^ 128 := by decide
  obtain ⟨-, hdigits, hdone, -, -, -, -, hcount⟩ := draws_every_numeral 2
  obtain ⟨hround, hnone⟩ := hdone 3364 hend
  exact ⟨hmore, hdigits 58 hmore, hend, hround, hnone, hfits, hcount hfits⟩

end Odometer

end KeyText
