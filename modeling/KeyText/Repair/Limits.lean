import KeyText.Search.Count

/-!
# Limits of a repair

How many characters a repair may change, how many candidates it may try, and how long it may take.
-/

namespace KeyText.Repair

/-- How far a search goes. -/
structure Limits where
  /-- The most characters that a candidate may have changed. -/
  maxChanges : Nat := 1
  /-- The most candidates that are tried. -/
  maxCandidates : Option Nat := none
  /-- The time in milliseconds after which the search stops. -/
  deadline : Option Nat := none
  deriving DecidableEq, Repr

/-- The most candidates that a search of a text of so many characters tries, as far as that can be counted. -/
def Limits.plannedCandidates (limits : Limits) (length : Nat) : Nat :=
  let all := Count.candidates length limits.maxChanges
  match limits.maxCandidates with
  | some most => min all most
  | none => all

/-- Whether as many candidates were tried as may be; if so, their number. -/
def Limits.spent? (limits : Limits) (tried : Nat) : Option Nat :=
  limits.maxCandidates.filter (· ≤ tried)

end KeyText.Repair
