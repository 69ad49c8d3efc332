import KeyText.Digest.Published
import KeyText.Proofs.Repair.Verdicts
import KeyText.Proofs.Search.States

/-!
# A search stays within bounds

Whatever the text, the checksum, the limits, the clock and the monad, a search finds something, is exhausted, exhausts its
budget or exceeds its deadline (`search_stays_in_bounds`). It never answers that a position lay outside the working copy, the
text or the buffer, or that a digit had no symbol; and no candidate decodes to more bytes than the buffer holds. The step from
one choice of positions to the next does not look outside the choice either.
-/

namespace KeyText.Repair

/-! ## The answers of a search -/

/-- What a search under limits may answer: a candidate, or one of the three failures that the limits account for. -/
inductive Limits.Allows (limits : Limits) : Except Failure Repaired → Prop
  | found (found : Repaired) : limits.Allows (.ok found)
  | exhausted (tried : Nat) : limits.Allows (.error (.exhausted limits.maxChanges tried (falsePositives tried)))
  | budgetExhausted {most : Nat} (tried : Nat) (budget : limits.maxCandidates = some most) (spent : most ≤ tried) :
    limits.Allows (.error (.budgetExhausted most tried (falsePositives tried)))
  | deadlineExceeded {most : Nat} (tried : Nat) (deadline : limits.deadline = some most) :
    limits.Allows (.error (.deadlineExceeded tried (falsePositives tried)))

/-- A verdict that, if it is a stop, has an answer that the limits allow. -/
def Verdict.Allowed (limits : Limits) : Verdict → Prop
  | .more _ => True
  | .stop _ answer => limits.Allows answer

/-- What a search may answer, its limits allow. -/
theorem Problem.Answers.allows {problem : Problem} {candidates : List (List UInt8)} {answer : Except Failure Repaired}
    (h : problem.Answers candidates answer) : problem.limits.Allows answer := by
  cases h with
  | found tried mem accepted => exact .found _
  | exhausted tried => exact .exhausted tried
  | budgetExhausted tried budget spent => exact .budgetExhausted tried budget spent
  | deadlineExceeded tried deadline => exact .deadlineExceeded tried deadline

section Run

variable {m : Type → Type} [Monad m] [LawfulMonad m]

/-- A run stops with an answer that the limits allow. -/
theorem Problem.always_run (problem : Problem) (clock : Nat → m Nat) (events : List Event) (tally : Tally) :
    Always (Verdict.Allowed problem.limits) (problem.run clock events tally) := by
  refine (problem.always_run_answers clock events tally).imp fun verdict h => ?_
  cases verdict with
  | more tally => exact trivial
  | stop tally answer => exact h.allows

/-- A search has an answer that its limits allow. -/
theorem always_search (text : String) (checksum : Checksum) (limits : Limits) (clock : Nat → m Nat) :
    Always (fun outcome => limits.Allows outcome.answer) (search text checksum limits clock) := by
  rw [search_eq_run]
  refine ((problemOf text checksum limits).always_run clock _ _).map fun verdict hverdict => ?_
  cases verdict with
  | more tally => exact .exhausted tally.tried
  | stop tally answer => exact hverdict

end Run

/-! ## The buffer -/

/-- Decoding a candidate into a buffer writes no more bytes than it holds, or fails for a wrong character. -/
def Fits (candidate scratch : List UInt8) : Prop :=
  match (Base58.Buffer.decode candidate scratch).1 with
  | .ok length => length ≤ scratch.length
  | .error fault => ∃ position character, fault = .invalidCharacter position character

/-- A candidate fits into a buffer with a byte for each of its symbols. -/
theorem fits_of_length {candidate scratch : List UInt8} (h : scratch.length = Base58.maxDecodedLength candidate.length) :
    Fits candidate scratch := by
  rw [Fits, Base58.Buffer.decode]
  cases hread : Base58.readSymbols candidate with
  | error position => exact ⟨_, _, rfl⟩
  | ok bytes =>
    have hroom : bytes.length ≤ scratch.length := by
      rw [h]
      exact Base58.length_le_of_readSymbols hread
    dsimp only
    rw [Base58.Buffer.write, if_pos hroom]
    exact hroom

/-- A search finds a candidate, or fails as its limits account for: it is exhausted, its budget is, or its time is over. It
does not fail for want of room in its buffer, nor for a position outside the text or a digit without a symbol. The choices of
positions that it draws ascend and are positions of the text, and no index or difference of the step from one to the next is
out of range; the digits that it draws have symbols; and what a candidate decodes to fits into the buffer. -/
theorem search_stays_in_bounds {m : Type → Type} [Monad m] [LawfulMonad m] (text : String) (checksum : Checksum)
    (limits : Limits) (clock : Nat → m Nat) :
    Always (fun outcome => limits.Allows outcome.answer) (search text checksum limits clock) ∧
      (∀ changes drawn, (Enumeration.take drawn (Positions.start (characters text).length changes)).2.done = true ∨
        (Enumeration.take drawn (Positions.start (characters text).length changes)).2.InBounds (characters text).length) ∧
      (∀ changes drawn, ∀ digit ∈ (Enumeration.take drawn (Odometer.start changes)).2.digits,
        (Base58.symbol? digit).isSome) ∧
      ∀ candidate scratch : List UInt8, scratch.length = Base58.maxDecodedLength candidate.length →
        Fits candidate scratch := by
  refine ⟨always_search text checksum limits clock, Positions.inBounds_take_start _, fun changes drawn digit hdigit => ?_,
    fun candidate scratch => fits_of_length⟩
  rw [Base58.symbol?_isSome_iff, UInt8.lt_iff_toNat_lt]
  exact Odometer.lt_of_mem_digits_take changes drawn digit hdigit

/-- A text with a character outside ASCII, under limits of every kind, and a buffer with room for it that was used before. -/
theorem search_stays_in_bounds_two_characters :
    ({ maxChanges := 2, maxCandidates := some 100, deadline := some 5 } : Limits).Allows
        (repair "é1" ChecksumKind.doubleSha256.checksum { maxChanges := 2, maxCandidates := some 100, deadline := some 5 }) ∧
      [7, 7].length = Base58.maxDecodedLength (characters "é1").length ∧ Fits (characters "é1") [7, 7] := by
  have hroom : [7, 7].length = Base58.maxDecodedLength (characters "é1").length := by decide
  obtain ⟨hanswer, -, -, hfits⟩ := search_stays_in_bounds "é1" ChecksumKind.doubleSha256.checksum
    { maxChanges := 2, maxCandidates := some 100, deadline := some 5 } fun _ => (pure 0 : Id Nat)
  exact ⟨hanswer.run, hroom, hfits _ _ hroom⟩

end KeyText.Repair
