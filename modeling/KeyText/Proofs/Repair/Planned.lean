import KeyText.Proofs.Repair.Ending
import KeyText.Proofs.Search.Count

/-!
# What is planned is what is tried

The number of candidates is planned from the length of the text alone, by a formula that stops at a greatest count, and tried
by going through the candidates. There are as many candidates as the formula counts (`length_candidates`), level by level
(`length_levels`). The greatest count is beyond every budget and every search that could be carried out, so it makes no
difference which of the two is compared with the budget (`min_limit_le_iff`); a search that fails has tried as many as were
planned (`tried_eq_planned`).
-/

namespace KeyText.Repair

/-! ## The number of candidates -/

section Levels

variable {α : Type} {on : List Nat → List α}

/-- Over some choices of as many positions, a list for each that has as many items as ways to write symbols there. -/
theorem length_flatMap_choices (hon : ∀ positions, (on positions).length = 58 ^ positions.length) {choices : List (List Nat)}
    {changes : Nat} (h : ∀ positions ∈ choices, positions.length = changes) :
    (choices.flatMap on).length = choices.length * 58 ^ changes := by
  have hevery : ∀ positions ∈ choices, (on positions).length = 58 ^ changes := by
    intro positions hpositions
    rw [hon, h positions hpositions]
  rw [List.length_flatMap, List.map_congr_left hevery, List.map_const', List.sum_replicate_nat]

/-- Over all choices of one position, two and so on: a binomial coefficient counts those of each number. -/
theorem length_levels (hon : ∀ positions, (on positions).length = 58 ^ positions.length) (length most : Nat) :
    ((List.range' 1 most).flatMap fun changes => (Positions.choices (List.range length) changes).flatMap on).length =
      ∑ changes ∈ Finset.Icc 1 most, length.choose changes * 58 ^ changes := by
  have hlevel : ∀ changes, ((Positions.choices (List.range length) changes).flatMap on).length =
      length.choose changes * 58 ^ changes := by
    intro changes
    rw [length_flatMap_choices hon fun positions h => (Positions.mem_choices_iff.mp h).2, Positions.length_choices,
      List.length_range]
  rw [List.length_flatMap, Nat.Icc_eq_range']
  simp only [hlevel]
  rfl

end Levels

/-- There are as many candidates as are counted. -/
theorem length_candidates (text : String) (maxChanges : Nat) :
    (candidates text maxChanges).length = Count.total text.length maxChanges :=
  length_levels (length_candidatesOn text) text.length (min maxChanges text.length)

/-! ## The plan -/

/-- What is planned is the least of three numbers: that of the candidates, which the formula adds up from all numbers of changed
positions, the greatest number of 128 bits, and the budget if there is one. This holds for texts of every length, also where the
count of choices of positions stops at its limit too early. -/
theorem plannedCandidates_exact (limits : Limits) (length : Nat) :
    let count := ∑ changes ∈ Finset.Icc 1 (min limits.maxChanges length), length.choose changes * 58 ^ changes
    limits.plannedCandidates length =
      match limits.maxCandidates with
      | none => min count (2 ^ 128 - 1)
      | some most => min (min count (2 ^ 128 - 1)) most := by
  intro count
  have hcount : Count.candidates length limits.maxChanges = min count (2 ^ 128 - 1) := by
    rw [Count.candidates_eq, Count.limit_eq, Nat.min_comm]
    rfl
  rw [Limits.plannedCandidates, hcount]
  cases limits.maxCandidates with
  | none => rfl
  | some most => rfl

/-! ## Planned and tried -/

/-- A budget of 64 bits allows a number of candidates exactly when it allows their count, which stops at a limit. -/
theorem min_limit_le_iff {count most : Nat} (h : most < UInt64.size) : min Count.limit count ≤ most ↔ count ≤ most := by
  have hlimit : UInt64.size ≤ Count.limit := by decide +kernel
  omega

/-- A plan without a budget keeps to a budget of 64 bits exactly when the candidates do. -/
theorem unlimited_le_iff {text : String} {limits : Limits} {most : Nat} (h : most < UInt64.size) :
    { limits with maxCandidates := none }.plannedCandidates text.length ≤ most ↔
      (candidates text limits.maxChanges).length ≤ most := by
  have hunlimited : { limits with maxCandidates := none }.plannedCandidates text.length =
      min Count.limit (candidates text limits.maxChanges).length := by
    rw [length_candidates, ← Count.candidates_eq]
    rfl
  rw [hunlimited, min_limit_le_iff h]

section Planned

variable {text : String} {limits : Limits} (hbudget : ∀ most ∈ limits.maxCandidates, most < UInt64.size)
  (hcount : limits.maxCandidates = none → Count.total text.length limits.maxChanges < UInt64.size)
include hbudget hcount

/-- What is planned is the number of candidates, or the budget if there are more. -/
theorem plannedCandidates_eq :
    limits.plannedCandidates text.length =
      (limits.maxCandidates.map (min (candidates text limits.maxChanges).length)).getD
        (candidates text limits.maxChanges).length := by
  have hlimit : UInt64.size ≤ Count.limit := by decide +kernel
  rw [Limits.plannedCandidates, Count.candidates_eq, length_candidates]
  cases hmax : limits.maxCandidates with
  | none =>
    have hless := hcount hmax
    dsimp only [Option.map_none, Option.getD_none]
    omega
  | some most =>
    have hless := hbudget most hmax
    dsimp only [Option.map_some, Option.getD_some]
    omega

/-- All candidates are planned where the budget allows them. -/
theorem planned_eq_length (hallowed : ∀ most ∈ limits.maxCandidates, (candidates text limits.maxChanges).length ≤ most) :
    limits.plannedCandidates text.length = (candidates text limits.maxChanges).length := by
  rw [plannedCandidates_eq hbudget hcount]
  cases hmax : limits.maxCandidates with
  | none => rfl
  | some most => exact Nat.min_eq_left (hallowed most hmax)

/-- The budget is planned where there are more candidates. -/
theorem planned_eq_budget {most : Nat} (hmax : limits.maxCandidates = some most)
    (hmore : most < (candidates text limits.maxChanges).length) : limits.plannedCandidates text.length = most := by
  rw [plannedCandidates_eq hbudget hcount, hmax]
  exact Nat.min_eq_right (Nat.le_of_lt hmore)

/-- As many candidates are planned as there are and the budget allows. -/
theorem le_planned {tried : Nat} (hsome : tried ≤ (candidates text limits.maxChanges).length)
    (hallowed : ∀ most ∈ limits.maxCandidates, tried ≤ most) : tried ≤ limits.plannedCandidates text.length := by
  rw [plannedCandidates_eq hbudget hcount]
  cases hmax : limits.maxCandidates with
  | none => exact hsome
  | some most => exact Nat.le_min.mpr ⟨hsome, hallowed most hmax⟩

end Planned

/-- Under a budget of 64 bits, or without one where so many candidates can be counted, a search without a deadline that fails
has tried as many candidates as were planned: it is exhausted where there is no budget or the plan without the budget keeps to
it, and has exhausted the budget otherwise. A search that succeeds has tried at least one candidate and at most as many as
were planned. -/
theorem tried_eq_planned (text : String) (checksum : Checksum) (limits : Limits) (hdeadline : limits.deadline = none)
    (hbudget : ∀ most ∈ limits.maxCandidates, most < UInt64.size)
    (hcount : limits.maxCandidates = none → Count.total text.length limits.maxChanges < UInt64.size) :
    let planned := limits.plannedCandidates text.length
    let unlimited := { limits with maxCandidates := none }.plannedCandidates text.length
    (∀ failure, repair text checksum limits = .error failure → failure.tried = planned ∧
        ((∀ most ∈ limits.maxCandidates, unlimited ≤ most) →
          failure = .exhausted limits.maxChanges planned (falsePositives planned)) ∧
        (¬(∀ most ∈ limits.maxCandidates, unlimited ≤ most) →
          ∃ most ∈ limits.maxCandidates, failure = .budgetExhausted most planned (falsePositives planned))) ∧
      ∀ found, repair text checksum limits = .ok found → 1 ≤ found.tried ∧ found.tried ≤ planned := by
  intro planned unlimited
  simp only [repair_eq_iff hdeadline]
  constructor
  · intro failure hends
    cases hends with
    | exhausted allowed rejected =>
      have hplanned : planned = _ := planned_eq_length hbudget hcount allowed
      refine ⟨hplanned.symm, fun _ => by rw [hplanned], fun hmore => absurd (fun most hmost => ?_) hmore⟩
      exact (unlimited_le_iff (hbudget most hmost)).mpr (allowed most hmost)
    | @spent most budget more rejected =>
      have hplanned : planned = most := planned_eq_budget hbudget hcount budget more
      refine ⟨hplanned.symm, fun hfits => absurd more (Nat.not_lt.mpr ?_), fun _ => ⟨most, budget, by rw [hplanned]⟩⟩
      exact (unlimited_le_iff (hbudget most budget)).mp (hfits most budget)
  · intro found hends
    cases hends with
    | @found before after fixed payload split allowed rejected accepted =>
      have hplace : before.length + 1 ≤ (candidates text limits.maxChanges).length := by
        rw [split, List.length_append, List.length_cons]
        omega
      exact ⟨Nat.succ_pos _, le_planned hbudget hcount hplace allowed⟩

/-- A short search that succeeds within its budget, and one without a budget that fails. -/
theorem tried_eq_planned_short_searches :
    (∀ most ∈ some 200, most < UInt64.size) ∧
      repair "111l" zeroDigest { maxChanges := 1, maxCandidates := some 200 } =
        .ok (repairedAs "111l" "1111" [] 175) ∧
      175 ≤ ({ maxChanges := 1, maxCandidates := some 200 } : Limits).plannedCandidates "111l".length ∧
      Count.total "1".length 1 < UInt64.size ∧
      repair "1" zeroDigest { maxChanges := 1 } = .error (.exhausted 1 58 (falsePositives 58)) ∧
      58 = ({ maxChanges := 1 } : Limits).plannedCandidates "1".length := by
  have hbudget : ∀ most ∈ some 200, most < UInt64.size := by
    intro most hmost
    cases hmost
    decide
  have hallowed : ∀ most ∈ some 200, 175 ≤ most := by
    intro most hmost
    cases hmost
    decide
  have hfound : repair "111l" zeroDigest { maxChanges := 1, maxCandidates := some 200 } =
      .ok (repairedAs "111l" "1111" [] 175) :=
    (ends_wrong_last_character.found_of_le (Nat.le_refl 1) hallowed).repair_eq rfl
  have hexhausted := ends_single_character.repair_eq rfl
  have hcount : Count.total "1".length 1 < UInt64.size := by
    decide +kernel
  refine ⟨hbudget, hfound, ?_, hcount, hexhausted, ?_⟩
  · exact ((tried_eq_planned "111l" zeroDigest { maxChanges := 1, maxCandidates := some 200 } rfl hbudget
      fun h => by cases h).2 _ hfound).2
  · exact ((tried_eq_planned "1" zeroDigest { maxChanges := 1 } rfl (fun most hmost => by cases hmost)
      fun _ => hcount).1 _ hexhausted).1

end KeyText.Repair
