/-!
# Counting candidates

How many choices of positions and of symbols there are. The counts grow quickly, so they stop at the greatest number of 128
bits, which then means "that many or more".
-/

namespace KeyText.Count

/-- The greatest count. -/
def limit : Nat := UInt64.size * UInt64.size - 1

/-- Multiplies by the factors `(n - i) / (i + 1)` of a binomial coefficient, starting at the given one. Every product is a
binomial coefficient times an integer, so the division is exact; a product past the limit ends in the limit. -/
def binomialFrom (n : Nat) : (steps i value : Nat) → Nat
  | 0, _, value => value
  | steps + 1, i, value =>
    if limit < value * (n - i) then limit else binomialFrom n steps (i + 1) (value * (n - i) / (i + 1))

/-- The number of ways to choose `r` of `n` positions. -/
def binomial (n r : Nat) : Nat :=
  if n < r then 0 else binomialFrom n (min r (n - r)) 0 1

/-- The number of ways to write symbols on `r` positions. The power of 58 that first exceeds the limit is the 22nd. -/
def substitutions (r : Nat) : Nat :=
  if r < 22 then Nat.pow 58 r else limit

/-- Adds the numbers of candidates with `changes`, `changes + 1`, … changed positions, so many steps far. -/
def candidatesFrom (length : Nat) : (steps changes total : Nat) → Nat
  | 0, _, total => total
  | steps + 1, changes, total =>
    if limit ≤ total then limit
    else
      let level := min limit (binomial length changes * substitutions changes)
      candidatesFrom length steps (changes + 1) (min limit (total + level))

/-- The number of candidates with at least one and at most the given number of changed positions. -/
def candidates (length maxChanges : Nat) : Nat :=
  candidatesFrom length (min maxChanges length) 1 0

end KeyText.Count
