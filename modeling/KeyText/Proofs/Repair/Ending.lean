import KeyText.Proofs.Repair.Marks

/-!
# How a search ends

Without a deadline a search ends in one of three ways, told by the list of candidates alone (`Ends`): it finds the first that
is accepted, it has tried them all, or the budget stops it before either. It ends in the way that its candidates tell and in
no other (`repair_eq_iff`). The candidates with fewer changes are the first of those with more (`candidates_prefix`), so wider
limits change no answer and narrower ones only cut the search short (`repair_truncates`). A short search is told by hand where
wrong characters rule out all choices of positions before the one at which it stops (`ends_of_wrong_characters`).
-/

namespace KeyText.Repair

/-- The ways in which a search without a deadline ends. -/
inductive Ends (text : String) (checksum : Checksum) (limits : Limits) : Except Failure Repaired → Prop
  /-- A candidate is accepted, none before it is, and the budget allows so many. -/
  | found {before after : List String} {fixed : String} {payload : List UInt8}
      (split : candidates text limits.maxChanges = before ++ fixed :: after)
      (allowed : ∀ most ∈ limits.maxCandidates, before.length < most)
      (rejected : ∀ earlier ∈ before, ¬accepts checksum earlier)
      (accepted : Base58.decodeChecked (Utf8.encode fixed) checksum = .ok payload) :
      Ends text checksum limits (.ok (repairedAs text fixed payload (before.length + 1)))
  /-- No candidate is accepted, and the budget allows them all. -/
  | exhausted (allowed : ∀ most ∈ limits.maxCandidates, (candidates text limits.maxChanges).length ≤ most)
      (rejected : ∀ fixed ∈ candidates text limits.maxChanges, ¬accepts checksum fixed) :
      Ends text checksum limits (.error (.exhausted limits.maxChanges (candidates text limits.maxChanges).length
        (falsePositives (candidates text limits.maxChanges).length)))
  /-- None of the candidates that the budget allows is accepted, and there are more. -/
  | spent {most : Nat} (budget : limits.maxCandidates = some most)
      (more : most < (candidates text limits.maxChanges).length)
      (rejected : ∀ earlier ∈ (candidates text limits.maxChanges).take most, ¬accepts checksum earlier) :
      Ends text checksum limits (.error (.budgetExhausted most most (falsePositives most)))

section Ends

variable {text : String} {checksum : Checksum} {limits : Limits}

/-- Candidates are as long as the text. -/
theorem length_of_mem_candidates {fixed : String} {maxChanges : Nat} (h : fixed ∈ candidates text maxChanges) :
    fixed.length = text.length := by
  obtain ⟨positions, hasc, hlt, -, -, hfixed⟩ := mem_candidates_iff.mp h
  exact ((mem_candidatesOn_iff (hasc.imp Nat.ne_of_lt) hlt).mp hfixed).1

/-- A search without a deadline has the answer that one of the ways to end tells, in every monad and with every clock, and the
reports that go with it. -/
theorem Ends.search_eq {m : Type → Type} [Monad m] [LawfulMonad m] {answer : Except Failure Repaired}
    (h : Ends text checksum limits answer) (clock : Nat → m Nat) (hdeadline : limits.deadline = none) :
    search text checksum limits clock =
      pure ⟨answer, (reportsFor text.length limits.maxChanges answer).toArray⟩ := by
  cases h with
  | found split allowed rejected accepted =>
    have hmem : _ ∈ candidates text limits.maxChanges := split ▸ List.mem_append_right _ List.mem_cons_self
    rw [search_eq_ok clock hdeadline split allowed rejected accepted,
      repaired_eq (length_of_mem_candidates hmem) accepted, reportsFor]
    simp only [repairedAs, Nat.lt_succ_iff]
  | exhausted allowed rejected => exact search_eq_exhausted clock hdeadline allowed rejected
  | spent budget more rejected => exact search_eq_budgetExhausted clock hdeadline budget more rejected

/-- A repair without a deadline has the answer that one of the ways to end tells. -/
theorem Ends.repair_eq {answer : Except Failure Repaired} (h : Ends text checksum limits answer)
    (hdeadline : limits.deadline = none) : repair text checksum limits = answer :=
  repair_eq_of_search (h.search_eq _ hdeadline)

/-- A search always ends in one of the ways: it depends on whether a candidate is accepted, and whether the budget allows the
first that is. -/
theorem exists_ends (text : String) (checksum : Checksum) (limits : Limits) : ∃ answer, Ends text checksum limits answer := by
  cases hfind : (candidates text limits.maxChanges).findIdx? (accepts checksum) with
  | none =>
    have hrejected : ∀ fixed ∈ candidates text limits.maxChanges, ¬accepts checksum fixed := by
      intro fixed hfixed
      rw [List.findIdx?_eq_none_iff.mp hfind fixed hfixed]
      exact Bool.false_ne_true
    by_cases hallowed : ∀ most ∈ limits.maxCandidates, (candidates text limits.maxChanges).length ≤ most
    · exact ⟨_, .exhausted hallowed hrejected⟩
    · push Not at hallowed
      obtain ⟨most, hbudget, hmore⟩ := hallowed
      exact ⟨_, .spent hbudget hmore fun earlier hearlier => hrejected earlier (List.mem_of_mem_take hearlier)⟩
  | some i =>
    obtain ⟨before, fixed, after, hsplit, -, hrejected, haccepts⟩ := exists_split_of_findIdx? hfind
    obtain ⟨payload, hdecode⟩ := accepts_iff.mp haccepts
    by_cases hallowed : ∀ most ∈ limits.maxCandidates, before.length < most
    · exact ⟨_, .found hsplit hallowed hrejected hdecode⟩
    · push Not at hallowed
      obtain ⟨most, hbudget, hmore⟩ := hallowed
      refine ⟨_, .spent hbudget ?_ fun earlier hearlier => hrejected earlier ?_⟩
      · rw [hsplit, List.length_append, List.length_cons]
        omega
      · rw [hsplit, List.take_append_of_le_length hmore] at hearlier
        exact List.mem_of_mem_take hearlier

/-- A search without a deadline has an answer exactly when it ends in the way that tells it. -/
theorem repair_eq_iff (hdeadline : limits.deadline = none) {answer : Except Failure Repaired} :
    repair text checksum limits = answer ↔ Ends text checksum limits answer := by
  constructor
  · rintro rfl
    obtain ⟨answer, h⟩ := exists_ends text checksum limits
    rwa [h.repair_eq hdeadline]
  · exact fun h => h.repair_eq hdeadline

end Ends

/-! ## Wider and narrower limits -/

/-- The candidates with fewer changes come before those that more changes add. -/
theorem candidates_prefix (text : String) {maxChanges more : Nat} (h : maxChanges ≤ more) :
    candidates text maxChanges <+: candidates text more := by
  have hlevels : min more text.length = min maxChanges text.length + (min more text.length - min maxChanges text.length) := by
    omega
  rw [candidates, candidates, hlevels, ← List.range'_append_1, List.flatMap_append]
  exact List.prefix_append _ _

variable {text : String} {checksum : Checksum}

/-- What was found stays found with more changes, under every budget that allows as many candidates as were tried. -/
theorem Ends.found_of_le {limits limits' : Limits} {found : Repaired} (h : Ends text checksum limits (.ok found))
    (hchanges : limits.maxChanges ≤ limits'.maxChanges) (hbudget : ∀ most ∈ limits'.maxCandidates, found.tried ≤ most) :
    Ends text checksum limits' (.ok found) := by
  cases h with
  | @found before after fixed payload split allowed rejected accepted =>
    obtain ⟨added, hadded⟩ := candidates_prefix text hchanges
    have hsplit : candidates text limits'.maxChanges = before ++ fixed :: (after ++ added) := by
      rw [← hadded, split, List.append_assoc, List.cons_append]
    exact .found hsplit hbudget rejected accepted

/-- A budget that allows fewer candidates than were tried before something was found stops the search. -/
theorem Ends.spent_of_found {limits limits' : Limits} {found : Repaired} (h : Ends text checksum limits (.ok found))
    (hchanges : limits.maxChanges ≤ limits'.maxChanges) {most : Nat} (hbudget : limits'.maxCandidates = some most)
    (hfewer : most < found.tried) :
    Ends text checksum limits' (.error (.budgetExhausted most most (falsePositives most))) := by
  cases h with
  | @found before after fixed payload split allowed rejected accepted =>
    obtain ⟨added, hadded⟩ := candidates_prefix text hchanges
    have hmost : most ≤ before.length := Nat.le_of_lt_succ hfewer
    rw [split, List.append_assoc] at hadded
    refine .spent hbudget ?_ fun earlier hearlier => rejected earlier ?_
    · rw [← hadded, List.length_append, List.cons_append, List.length_cons]
      omega
    · rw [← hadded, List.take_append_of_le_length hmost] at hearlier
      exact List.mem_of_mem_take hearlier

/-! ## Short searches -/

/-- The candidates of a search are those on its choices of positions. -/
theorem candidates_eq_flatMap_choices (text : String) (maxChanges : Nat) :
    candidates text maxChanges = (choices text.length maxChanges).flatMap (candidatesOn text) := by
  rw [choices, List.flatMap_assoc]
  rfl

/-- A candidate on a choice of positions that leaves out a wrong character is not accepted. -/
theorem not_accepts_of_mem_candidatesOn {fixed : String} {maxChanges : Nat} {positions : List Nat}
    (hpositions : positions ∈ choices text.length maxChanges) (h : fixed ∈ candidatesOn text positions) {i : Nat} {c : Char}
    (hout : i ∉ positions) (hget : text.toList[i]? = some c) (hwrong : c ∉ Base58.alphabet) : ¬accepts checksum fixed := by
  intro haccepts
  obtain ⟨changes, -, hchoice⟩ := List.mem_flatMap.mp hpositions
  obtain ⟨hascending, hinside, -⟩ := Positions.mem_choices_range_iff.mp hchoice
  obtain ⟨-, hagree, -⟩ := (mem_candidatesOn_iff (hascending.imp Nat.ne_of_lt) hinside).mp h
  exact hwrong (mem_alphabet_of_accepts haccepts c (List.mem_of_getElem? ((hagree i hout).trans hget)))

/-- A search finds the text with the first symbol on each of some positions, if it is accepted and every choice of positions before
them leaves out a wrong character. -/
theorem ends_of_wrong_characters {fixed : String} {payload : List UInt8} {maxChanges : Nat} {before after : List (List Nat)}
    {positions : List Nat} (hchoices : choices text.length maxChanges = before ++ positions :: after)
    (hwrong : ∀ earlier ∈ before, ∃ i ∉ earlier, ∃ c ∉ Base58.alphabet, text.toList[i]? = some c)
    (hfixed : (candidatesOn text positions).head? = some fixed)
    (haccepted : Base58.decodeChecked (Utf8.encode fixed) checksum = .ok payload) :
    Ends text checksum { maxChanges }
      (.ok (repairedAs text fixed payload ((before.map fun earlier => 58 ^ earlier.length).sum + 1))) := by
  obtain ⟨more, hmore⟩ := List.head?_eq_some_iff.mp hfixed
  have hsplit : candidates text maxChanges =
      before.flatMap (candidatesOn text) ++ fixed :: (more ++ after.flatMap (candidatesOn text)) := by
    rw [candidates_eq_flatMap_choices, hchoices, List.flatMap_append, List.flatMap_cons, hmore, List.cons_append]
  have hrejected : ∀ earlier ∈ before.flatMap (candidatesOn text), ¬accepts checksum earlier := by
    intro earlier hearlier
    obtain ⟨choice, hchoice, hmem⟩ := List.mem_flatMap.mp hearlier
    obtain ⟨i, hout, c, hc, hget⟩ := hwrong choice hchoice
    exact not_accepts_of_mem_candidatesOn (hchoices ▸ List.mem_append_left _ hchoice) hmem hout hget hc
  have hlength : (before.flatMap (candidatesOn text)).length = (before.map fun earlier => 58 ^ earlier.length).sum := by
    rw [List.length_flatMap]
    simp only [length_candidatesOn]
  rw [← hlength]
  exact .found hsplit (fun most hmost => by cases hmost) hrejected haccepted

/-- The digest of zeros for every payload. -/
def zeroDigest : Checksum :=
  ⟨fun _ => Vector.replicate 32 0⟩

/-- Four zeros are accepted under the digest of zeros, with an empty payload. -/
theorem decodeChecked_four_zeros : Base58.decodeChecked (Utf8.encode "1111") zeroDigest = .ok [] := by
  rw [Base58.decodeChecked_eq_ok_iff_readSymbols]
  decide +kernel

/-- A text of four zeros with a wrong character at its end is repaired with the first symbol on the last position, behind all
symbols on the three positions before it. -/
theorem ends_wrong_last_character :
    Ends "111l" zeroDigest { maxChanges := 1 } (.ok (repairedAs "111l" "1111" [] 175)) := by
  have hchoices : choices "111l".length 1 = [[0], [1], [2]] ++ [3] :: [] := by
    decide +kernel
  have hwrong : ∀ earlier ∈ [[0], [1], [2]], ∃ i ∉ earlier, ∃ c ∉ Base58.alphabet, "111l".toList[i]? = some c := by
    intro earlier hearlier
    have hout : ∀ earlier ∈ [[0], [1], [2]], 3 ∉ earlier := by decide
    exact ⟨3, hout earlier hearlier, 'l', by decide +kernel, by decide +kernel⟩
  exact ends_of_wrong_characters hchoices hwrong (by decide +kernel) decodeChecked_four_zeros

/-- With a character outside ASCII at its beginning and a wrong one in its third place, it is repaired with the first symbols on
both, behind all symbols on single positions and on the first two. -/
theorem ends_two_wrong_characters :
    Ends "é1l1" zeroDigest { maxChanges := 2 } (.ok (repairedAs "é1l1" "1111" [] 3597)) := by
  have hchoices : choices "é1l1".length 2 =
      [[0], [1], [2], [3], [0, 1]] ++ [0, 2] :: [[0, 3], [1, 2], [1, 3], [2, 3]] := by
    decide +kernel
  have hwrong : ∀ earlier ∈ [[0], [1], [2], [3], [0, 1]],
      ∃ i ∉ earlier, ∃ c ∉ Base58.alphabet, "é1l1".toList[i]? = some c := by
    intro earlier hearlier
    have hout : ∀ earlier ∈ [[0], [1], [2], [3], [0, 1]], 0 ∉ earlier ∨ 2 ∉ earlier := by decide
    rcases hout earlier hearlier with hfirst | hthird
    · exact ⟨0, hfirst, 'é', by decide +kernel, by decide +kernel⟩
    · exact ⟨2, hthird, 'l', by decide +kernel, by decide +kernel⟩
  exact ends_of_wrong_characters hchoices hwrong (by decide +kernel) decodeChecked_four_zeros

/-- A single character has no room for a checksum, so all symbols are tried in its place in vain. -/
theorem ends_single_character :
    Ends "1" zeroDigest { maxChanges := 1 } (.error (.exhausted 1 58 (falsePositives 58))) := by
  have hlength : (candidates "1" 1).length = 58 := by
    decide +kernel
  have hrejected : ∀ fixed ∈ candidates "1" 1, ¬accepts zeroDigest fixed := by
    intro fixed hfixed haccepts
    have hroom := size_le_length_of_accepts haccepts
    rw [length_of_mem_candidates hfixed] at hroom
    exact absurd hroom (by decide)
  have h : Ends "1" zeroDigest { maxChanges := 1 }
      (.error (.exhausted 1 (candidates "1" 1).length (falsePositives (candidates "1" 1).length))) :=
    .exhausted (fun most hmost => by cases hmost) hrejected
  rwa [hlength] at h

/-! ## The answer under other limits -/

/-- Limits cut a search short and change nothing else. What is found without a budget is found with more changes allowed and
under every budget that allows the candidates tried; and a search without a budget that has tried all candidates ends alike
under every budget that allows them. A smaller budget stops the search when it is spent. -/
theorem repair_truncates (text : String) (checksum : Checksum) (maxChanges budget : Nat) :
    (∀ found, repair text checksum { maxChanges } = .ok found → ∀ more, maxChanges ≤ more →
      repair text checksum { maxChanges := more, maxCandidates := some budget } =
        if found.tried ≤ budget then .ok found
        else .error (.budgetExhausted budget budget (falsePositives budget))) ∧
      ∀ most tried risk, repair text checksum { maxChanges } = .error (.exhausted most tried risk) →
        repair text checksum { maxChanges, maxCandidates := some budget } =
          if tried ≤ budget then .error (.exhausted most tried risk)
          else .error (.budgetExhausted budget budget (falsePositives budget)) := by
  constructor
  · intro found hfound more hmore
    rw [repair_eq_iff rfl] at hfound ⊢
    by_cases hallowed : found.tried ≤ budget
    · rw [if_pos hallowed]
      refine hfound.found_of_le hmore fun most hmost => ?_
      cases hmost
      exact hallowed
    · rw [if_neg hallowed]
      exact hfound.spent_of_found hmore rfl (Nat.lt_of_not_le hallowed)
  · intro most tried risk hexhausted
    rw [repair_eq_iff rfl] at hexhausted ⊢
    cases hexhausted with
    | exhausted allowed rejected =>
      by_cases hallowed : (candidates text maxChanges).length ≤ budget
      · rw [if_pos hallowed]
        refine .exhausted (fun most hmost => ?_) rejected
        cases hmost
        exact hallowed
      · rw [if_neg hallowed]
        exact .spent rfl (Nat.lt_of_not_le hallowed) fun earlier hearlier =>
          rejected earlier (List.mem_of_mem_take hearlier)

/-- Two short searches with the least budget that allows their candidates, and with one less. -/
theorem repair_truncates_short_searches :
    repair "111l" zeroDigest { maxChanges := 1 } = .ok (repairedAs "111l" "1111" [] 175) ∧ 1 ≤ 2 ∧
      repair "111l" zeroDigest { maxChanges := 2, maxCandidates := some 175 } =
        .ok (repairedAs "111l" "1111" [] 175) ∧
      repair "111l" zeroDigest { maxChanges := 2, maxCandidates := some 174 } =
        .error (.budgetExhausted 174 174 (falsePositives 174)) ∧
      repair "1" zeroDigest { maxChanges := 1 } = .error (.exhausted 1 58 (falsePositives 58)) ∧
      repair "1" zeroDigest { maxChanges := 1, maxCandidates := some 58 } =
        .error (.exhausted 1 58 (falsePositives 58)) ∧
      repair "1" zeroDigest { maxChanges := 1, maxCandidates := some 57 } =
        .error (.budgetExhausted 57 57 (falsePositives 57)) := by
  have hfound := ends_wrong_last_character.repair_eq rfl
  have hexhausted := ends_single_character.repair_eq rfl
  have hmore : 1 ≤ 2 := by decide
  exact ⟨hfound, hmore, (repair_truncates "111l" zeroDigest 1 175).1 _ hfound 2 hmore,
    (repair_truncates "111l" zeroDigest 1 174).1 _ hfound 2 hmore, hexhausted,
    (repair_truncates "1" zeroDigest 1 58).2 _ _ _ hexhausted, (repair_truncates "1" zeroDigest 1 57).2 _ _ _ hexhausted⟩

end KeyText.Repair
