import KeyText.Proofs.Repair.Outcome

/-!
# A repair searches a ball

The candidates of a search are, so far as they can be accepted, the texts over the alphabet that differ from the given text
in at most so many characters (`mem_candidates_iff_near`). Many of them come on several choices of positions, and the text
itself comes where symbols are written over equal ones. So a search without a deadline or a budget succeeds exactly when such
a text is accepted (`repair_iff_near`).
-/

namespace KeyText.Repair

open Base58 (alphabet)

/-- The positions at which a text differs from another, in ascending order. -/
def differing (before after : String) : List Nat :=
  (List.range before.length).filter fun i => before.toList[i]? ≠ after.toList[i]?

/-- A text over the alphabet, as long as a given one and different from it in at most so many characters. -/
structure Near (text : String) (most : Nat) (fixed : String) : Prop where
  length : fixed.length = text.length
  symbols : ∀ c ∈ fixed.toList, c ∈ alphabet
  distance : (differing text fixed).length ≤ most

/-! ## Differences -/

/-- A text differs at the positions of it where another has another character. -/
theorem mem_differing_iff {before after : String} {i : Nat} :
    i ∈ differing before after ↔ i < before.length ∧ before.toList[i]? ≠ after.toList[i]? := by
  rw [differing, List.mem_filter, List.mem_range, decide_eq_true_eq]

/-- The positions of differences are ascending. -/
theorem pairwise_differing (before after : String) : (differing before after).Pairwise (· < ·) :=
  List.pairwise_lt_range.filter _

/-- Texts of one length agree outside their differences. -/
theorem getElem?_eq_of_not_mem_differing {before after : String} (hlength : after.length = before.length) {i : Nat}
    (h : i ∉ differing before after) : after.toList[i]? = before.toList[i]? := by
  by_cases hi : i < before.length
  · by_contra hne
    exact h (mem_differing_iff.mpr ⟨hi, Ne.symm hne⟩)
  · rw [List.getElem?_eq_none, List.getElem?_eq_none]
    · rw [String.length_toList]
      exact Nat.le_of_not_lt hi
    · rw [String.length_toList, hlength]
      exact Nat.le_of_not_lt hi

/-- Texts of one length that nowhere differ are the same. -/
theorem eq_of_differing_eq_nil {before after : String} (hlength : after.length = before.length)
    (h : differing before after = []) : after = before := by
  apply String.toList_inj.mp
  apply List.ext_getElem?
  intro i
  apply getElem?_eq_of_not_mem_differing hlength
  rw [h]
  exact List.not_mem_nil

/-- Where texts agree outside some positions, they differ on no more of them. -/
theorem length_differing_le {before after : String} {positions : List Nat}
    (h : ∀ i, i ∉ positions → after.toList[i]? = before.toList[i]?) :
    (differing before after).length ≤ positions.length := by
  have hsubset : differing before after ⊆ positions := by
    intro i hi
    by_contra hout
    exact (mem_differing_iff.mp hi).2 (h i hout).symm
  have honce : (differing before after).Nodup := (pairwise_differing before after).imp Nat.ne_of_lt
  exact (List.subperm_of_subset honce hsubset).length_le

/-! ## Candidates and balls -/

/-- The candidates of a search are those on the choices of at least one position and at most the greatest number of
changes. -/
theorem mem_candidates_iff {text fixed : String} {maxChanges : Nat} :
    fixed ∈ candidates text maxChanges ↔ ∃ positions : List Nat, positions.Pairwise (· < ·) ∧
      (∀ p ∈ positions, p < text.length) ∧ 0 < positions.length ∧ positions.length ≤ maxChanges ∧
      fixed ∈ candidatesOn text positions := by
  simp only [candidates, List.mem_flatMap, List.mem_range'_1, Positions.mem_choices_range_iff]
  constructor
  · rintro ⟨changes, ⟨hpos, hmost⟩, positions, ⟨hasc, hlt, rfl⟩, hfixed⟩
    exact ⟨positions, hasc, hlt, hpos, by omega, hfixed⟩
  · rintro ⟨positions, hasc, hlt, hpos, hmost, hfixed⟩
    have hroom : positions.length ≤ text.length := by
      rw [← List.length_range (n := text.length)]
      exact (List.subperm_of_subset (hasc.imp Nat.ne_of_lt) fun p hp => List.mem_range.mpr (hlt p hp)).length_le
    exact ⟨positions.length, ⟨hpos, by omega⟩, positions, ⟨hasc, hlt, rfl⟩, hfixed⟩

/-- A candidate whose characters are all in the alphabet is near the text. -/
theorem near_of_mem_candidates {text fixed : String} {maxChanges : Nat} (h : fixed ∈ candidates text maxChanges)
    (hsymbols : ∀ c ∈ fixed.toList, c ∈ alphabet) : Near text maxChanges fixed := by
  obtain ⟨positions, hasc, hlt, -, hmost, hfixed⟩ := mem_candidates_iff.mp h
  obtain ⟨hlength, hagree, -⟩ := (mem_candidatesOn_iff (hasc.imp Nat.ne_of_lt) hlt).mp hfixed
  exact ⟨hlength, hsymbols, Nat.le_trans (length_differing_le hagree) hmost⟩

/-- A text that is near is on every choice of positions that holds the differences, whatever other positions the choice
has. -/
theorem Near.mem_candidatesOn {text fixed : String} {most : Nat} (h : Near text most fixed) {positions : List Nat}
    (honce : positions.Nodup) (hlt : ∀ p ∈ positions, p < text.length) (hsubset : differing text fixed ⊆ positions) :
    fixed ∈ candidatesOn text positions := by
  rw [mem_candidatesOn_iff honce hlt]
  refine ⟨h.length, fun i hi => ?_, fun p hp => ?_⟩
  · exact getElem?_eq_of_not_mem_differing h.length fun hdiff => hi (hsubset hdiff)
  · have hp' : p < fixed.toList.length := by
      rw [String.length_toList, h.length]
      exact hlt p hp
    exact ⟨fixed.toList[p], h.symbols _ (List.getElem_mem hp'), List.getElem?_eq_getElem hp'⟩

/-- A text that is near is a candidate, where a change is allowed and there is a character to change. Its differences are a
choice of positions, but for the text itself, which is on the choice of the first position. -/
theorem Near.mem_candidates {text fixed : String} {maxChanges : Nat} (h : Near text maxChanges fixed)
    (hmost : 0 < maxChanges) (htext : 0 < text.length) : fixed ∈ candidates text maxChanges := by
  rw [mem_candidates_iff]
  by_cases hsame : differing text fixed = []
  · refine ⟨[0], List.pairwise_singleton _ _, ?_, Nat.one_pos, hmost, ?_⟩
    · intro p hp
      rw [List.mem_singleton.mp hp]
      exact htext
    · apply h.mem_candidatesOn (List.nodup_singleton 0)
      · intro p hp
        rw [List.mem_singleton.mp hp]
        exact htext
      · rw [hsame]
        exact List.nil_subset _
  · have hlt : ∀ p ∈ differing text fixed, p < text.length := fun p hp => (mem_differing_iff.mp hp).1
    have hasc := pairwise_differing text fixed
    exact ⟨differing text fixed, hasc, hlt, List.length_pos_iff.mpr hsame, h.distance,
      h.mem_candidatesOn (hasc.imp Nat.ne_of_lt) hlt fun _ hp => hp⟩

/-- The accepted texts among the candidates are the accepted texts that are near. -/
theorem mem_candidates_iff_near {text fixed : String} {checksum : Checksum} {maxChanges : Nat} {payload : List UInt8}
    (hmost : 0 < maxChanges) (haccepted : Base58.decodeChecked (Utf8.encode fixed) checksum = .ok payload) :
    fixed ∈ candidates text maxChanges ↔ Near text maxChanges fixed := by
  have hsymbols := mem_alphabet_of_decodeChecked haccepted
  refine ⟨fun h => near_of_mem_candidates h hsymbols, fun h => h.mem_candidates hmost ?_⟩
  have hroom := size_le_length_of_accepts (accepts_iff.mpr ⟨payload, haccepted⟩)
  rw [h.length] at hroom
  exact Nat.lt_of_lt_of_le (by decide) hroom

/-! ## Texts with too many wrong characters -/

/-- Counting the elements of a list is counting their indices. -/
theorem countP_eq_countP_range {α : Type} (l : List α) (p : α → Bool) :
    l.countP p = (List.range l.length).countP fun i => l[i]?.any p := by
  induction l with
  | nil => rfl
  | cons a l ih =>
    rw [List.length_cons, List.range_succ_eq_map, List.countP_cons, List.countP_cons, List.countP_map, ih]
    rfl

/-- Every wrong character of a text differs from any character of a text over the alphabet. -/
theorem Near.countP_le {text fixed : String} {most : Nat} (h : Near text most fixed) :
    text.toList.countP (· ∉ alphabet) ≤ most := by
  refine Nat.le_trans ?_ h.distance
  rw [countP_eq_countP_range, String.length_toList, differing, ← List.countP_eq_length_filter]
  apply List.countP_mono_left
  intro i _ hwrong
  rw [decide_eq_true_eq]
  intro hsame
  rw [hsame] at hwrong
  cases hget : fixed.toList[i]? with
  | none =>
    rw [hget] at hwrong
    cases hwrong
  | some c =>
    rw [hget, Option.any_some, decide_eq_true_eq] at hwrong
    exact hwrong (h.symbols c (List.mem_of_getElem? hget))

/-! ## The answer -/

/-- A repair without a deadline or a budget succeeds exactly when some text over the alphabet that differs from the given one
in no more characters than may be changed, or in none, is accepted; it then answers such a text, and otherwise it says that
it is exhausted. So a text with more wrong characters than may be changed is not repaired under any checksum. -/
theorem repair_iff_near (text : String) (checksum : Checksum) (maxChanges : Nat) (h : 0 < maxChanges) :
    ((∃ found, repair text checksum { maxChanges } = .ok found) ↔ ∃ fixed payload, Near text maxChanges fixed ∧
        Base58.decodeChecked (Utf8.encode fixed) checksum = .ok payload) ∧
      (∀ found, repair text checksum { maxChanges } = .ok found → Near text maxChanges found.fixed ∧
        Base58.decodeChecked (Utf8.encode found.fixed) checksum = .ok found.payload) ∧
      ((¬∃ found, repair text checksum { maxChanges } = .ok found) →
        ∃ tried risk, repair text checksum { maxChanges } = .error (.exhausted maxChanges tried risk)) ∧
      (maxChanges < text.toList.countP (· ∉ alphabet) → ∀ found, repair text checksum { maxChanges } ≠ .ok found) := by
  have hsound : ∀ found, repair text checksum { maxChanges } = .ok found → Near text maxChanges found.fixed ∧
      Base58.decodeChecked (Utf8.encode found.fixed) checksum = .ok found.payload := by
    intro found hfound
    rcases repair_cases text checksum maxChanges with ⟨i, fixed, payload, hfind, hget, hdecode, found', hrepair, hfixed,
      hpayload, htried⟩ | ⟨hfind, hrepair⟩
    · rw [hfound] at hrepair
      cases hrepair
      subst hfixed hpayload
      exact ⟨(mem_candidates_iff_near h hdecode).mp (List.mem_of_getElem? hget), hdecode⟩
    · rw [hfound] at hrepair
      cases hrepair
  refine ⟨⟨?_, ?_⟩, hsound, ?_, ?_⟩
  · rintro ⟨found, hfound⟩
    exact ⟨found.fixed, found.payload, hsound found hfound⟩
  · rintro ⟨fixed, payload, hnear, hdecode⟩
    rcases repair_cases text checksum maxChanges with ⟨i, fixed', payload', hfind, hget, hdecode', found, hrepair, -⟩ |
      ⟨hfind, hrepair⟩
    · exact ⟨found, hrepair⟩
    · have hrejected := List.findIdx?_eq_none_iff.mp hfind fixed ((mem_candidates_iff_near h hdecode).mpr hnear)
      rw [accepts_iff.mpr ⟨payload, hdecode⟩] at hrejected
      cases hrejected
  · intro hnone
    rcases repair_cases text checksum maxChanges with ⟨i, fixed, payload, hfind, hget, hdecode, found, hrepair, -⟩ |
      ⟨hfind, hrepair⟩
    · exact absurd ⟨found, hrepair⟩ hnone
    · exact ⟨_, _, hrepair⟩
  · intro hwrong found hfound
    exact absurd (hsound found hfound).1.countP_le (Nat.not_le.mpr hwrong)

/-- Under a digest of zeros, the text of four zeros is found behind one wrong character. -/
theorem repair_one_wrong_character :
    0 < 1 ∧ ∃ found, repair "111l" ⟨fun _ => Vector.replicate 32 0⟩ { maxChanges := 1 } = .ok found := by
  have hdecode : Base58.decodeChecked (Utf8.encode "1111") ⟨fun _ => Vector.replicate 32 0⟩ = .ok [] := by
    rw [Base58.decodeChecked_eq_ok_iff_symbols, ← Base58.readSymbols_eq_ok_iff]
    decide +kernel
  refine ⟨Nat.one_pos, (repair_iff_near _ _ 1 Nat.one_pos).1.mpr ⟨"1111", [], ⟨?_, ?_, ?_⟩, hdecode⟩⟩
  · decide +kernel
  · exact mem_alphabet_of_decodeChecked hdecode
  · decide +kernel

end KeyText.Repair
