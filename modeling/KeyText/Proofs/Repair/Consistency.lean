import KeyText.Proofs.Repair.Ending
import KeyText.Proofs.Repair.Verdicts

/-!
# What is told of a found text is consistent

Whatever limits a search has, deadlines included, and whatever its clock tells, the parts of what it answers for a found text agree:
the texts, the marks, the positions under the marks, their number and the payload (`found_consistent`). What is told is what
`repairedAs` makes of the two texts, so each part is a fact about the positions at which they differ.
-/

namespace KeyText.Repair

open Base58 (alphabet)

/-- What is told of a found text, in terms of the given text and the found one. -/
structure Repaired.Consistent (text : String) (checksum : Checksum) (maxChanges : Nat) (found : Repaired) : Prop where
  /-- The given text is told as it is. -/
  given : found.given = text
  /-- The found text has as many characters. -/
  length_fixed : found.fixed.length = text.length
  /-- All characters of the found text are symbols. -/
  symbols : ∀ c ∈ found.fixed.toList, c ∈ alphabet
  /-- The found text decodes to the payload. -/
  payload : Base58.decodeChecked (Utf8.encode found.fixed) checksum = .ok found.payload
  /-- There is a mark or a space for every character. -/
  length_diff : found.diff.length = text.length
  /-- A mark stands where the characters differ, and a space where they do not. -/
  marks : ∀ i < text.length,
    found.diff.toList[i]? = some (if text.toList[i]? = found.fixed.toList[i]? then ' ' else '^')
  /-- The positions under the marks ascend. -/
  ascending : found.changedPositions.Pairwise (· < ·)
  /-- They are the positions at which the characters differ. -/
  positions : ∀ i, i ∈ found.changedPositions ↔ i < text.length ∧ text.toList[i]? ≠ found.fixed.toList[i]?
  /-- There are as many as changes are told. -/
  changes : found.changedPositions.length = found.changes
  /-- No more characters were changed than may be. -/
  most : found.changes ≤ maxChanges

/-! ## Marks -/

/-- There is a mark or a space for every character of a text. -/
theorem length_marks (before after : String) : (marks before after).length = before.length := by
  rw [marks, String.length_ofList, List.length_map, List.length_range]

/-- The marks stand at the differences. -/
theorem getElem?_marks {before after : String} {i : Nat} (h : i < before.length) :
    (marks before after).toList[i]? = some (if before.toList[i]? = after.toList[i]? then ' ' else marker) := by
  rw [marks, String.toList_ofList, List.getElem?_map, List.getElem?_range h, Option.map_some]
  by_cases hsame : before.toList[i]? = after.toList[i]?
  · rw [if_neg fun hmem => (mem_differing_iff.mp hmem).2 hsame, if_pos hsame]
  · rw [if_pos (mem_differing_iff.mpr ⟨h, hsame⟩), if_neg hsame]

/-- The positions under the marks of an answer are those at which the texts differ. -/
theorem changedPositions_repairedAs (text fixed : String) (payload : List UInt8) (tried : Nat) :
    (repairedAs text fixed payload tried).changedPositions = differing text fixed := by
  have hspace : ' ' ≠ marker := by decide
  have hzip : (marks text fixed).toList.zipIdx =
      (List.range text.length).map fun i => (if i ∈ differing text fixed then marker else ' ', i) := by
    rw [marks, String.toList_ofList]
    apply List.ext_getElem
    · rw [List.length_zipIdx, List.length_map, List.length_map]
    · intro i _ _
      rw [List.getElem_zipIdx, List.getElem_map, List.getElem_map, List.getElem_range, Nat.zero_add]
  calc (repairedAs text fixed payload tried).changedPositions
      = (List.range text.length).filterMap (Option.guard (· ∈ differing text fixed)) := by
        rw [Repaired.changedPositions, repairedAs, hzip, List.filterMap_map]
        apply List.filterMap_congr
        intro i _
        by_cases hmem : i ∈ differing text fixed
        · simp [hmem, Option.guard]
        · simp [hmem, hspace, Option.guard]
    _ = (List.range text.length).filter (· ∈ differing text fixed) := by
        rw [List.filterMap_eq_filter]
    _ = differing text fixed := by
        apply List.filter_congr
        intro i hi
        exact decide_eq_decide.mpr (mem_differing_iff.trans (and_iff_right (List.mem_range.mp hi)))

/-! ## The answer -/

/-- What is told of an accepted text that is near is consistent. -/
theorem consistent_repairedAs {text fixed : String} {checksum : Checksum} {maxChanges : Nat} {payload : List UInt8}
    (tried : Nat) (hnear : Near text maxChanges fixed)
    (haccepted : Base58.decodeChecked (Utf8.encode fixed) checksum = .ok payload) :
    (repairedAs text fixed payload tried).Consistent text checksum maxChanges := by
  have hpositions := changedPositions_repairedAs text fixed payload tried
  refine ⟨rfl, hnear.length, hnear.symbols, haccepted, length_marks text fixed, fun i hi => getElem?_marks hi, ?_,
    fun i => ?_, ?_, hnear.distance⟩
  · rw [hpositions]
    exact pairwise_differing text fixed
  · rw [hpositions]
    exact mem_differing_iff
  · rw [hpositions]
    rfl

/-- What a search answers for a candidate that it tried and that decodes is consistent. -/
theorem consistent_of_answers {text : String} {checksum : Checksum} {limits : Limits} {found : Repaired}
    (h : (problemOf text checksum limits).Answers (candidatesOf (problemOf text checksum limits).events) (.ok found)) :
    found.Consistent text checksum limits.maxChanges := by
  cases h with
  | @found candidate payload tried mem accepted =>
    rw [candidatesOf_events_eq] at mem
    obtain ⟨fixed, hfixed, rfl⟩ := List.mem_map.mp mem
    have hdecode : Base58.decodeChecked (Utf8.encode fixed) checksum = .ok payload :=
      decodeChecked_characters_iff.mp accepted
    have hnear := near_of_mem_candidates hfixed (mem_alphabet_of_decodeChecked hdecode)
    rw [repaired_eq hnear.length hdecode]
    exact consistent_repairedAs tried hnear hdecode

/-- What a search answers for a found text is consistent, whatever the text, the checksum, the limits, the clock and the monad: the
given text is told as it is; the found one has as many characters, all of the alphabet, and decodes to the payload; the marks stand
where the characters differ, the positions under them are those, in ascending order and as many as changes are told; and no more
characters were changed than may be. -/
theorem found_consistent {m : Type → Type} [Monad m] [LawfulMonad m] (text : String) (checksum : Checksum) (limits : Limits)
    (clock : Nat → m Nat) :
    Always (fun outcome => ∀ found, outcome.answer = .ok found → found.Consistent text checksum limits.maxChanges)
        (search text checksum limits clock) ∧
      ∀ found, repair text checksum limits = .ok found → found.Consistent text checksum limits.maxChanges := by
  have hsearch : ∀ {n : Type → Type} [Monad n] [LawfulMonad n] (clock : Nat → n Nat),
      Always (fun outcome => ∀ found, outcome.answer = .ok found → found.Consistent text checksum limits.maxChanges)
        (search text checksum limits clock) := by
    intro n _ _ clock
    refine (always_search_answers text checksum limits clock).imp fun outcome hanswers found hfound => ?_
    rw [hfound] at hanswers
    exact consistent_of_answers hanswers
  exact ⟨hsearch clock, (hsearch fun _ => (pure 0 : Id Nat)).run⟩

/-- A found text whose given one has a character of two bytes and another wrong one. -/
theorem found_consistent_two_wrong_characters :
    repair "é1l1" zeroDigest { maxChanges := 2 } = .ok (repairedAs "é1l1" "1111" [] 3597) ∧
      (repairedAs "é1l1" "1111" [] 3597).Consistent "é1l1" zeroDigest 2 ∧
      (repairedAs "é1l1" "1111" [] 3597).diff = "^ ^ " ∧
      (repairedAs "é1l1" "1111" [] 3597).changedPositions = [0, 2] := by
  have hfound := ends_two_wrong_characters.repair_eq rfl
  obtain ⟨-, hconsistent⟩ := found_consistent "é1l1" zeroDigest { maxChanges := 2 } fun _ => (pure 0 : Id Nat)
  exact ⟨hfound, hconsistent _ hfound, by decide +kernel, by decide +kernel⟩

end KeyText.Repair
