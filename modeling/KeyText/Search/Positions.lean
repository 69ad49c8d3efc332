import KeyText.Search.Enumeration

/-!
# Choices of positions

The ways to choose some of the positions `0, …, n - 1`, each as an ascending list, in lexicographic order: from
`[0, …, r - 1]` to `[n - r, …, n - 1]`.
-/

namespace KeyText

/-- A state of the enumeration: the number of positions there are, the choice that comes next, and whether it was drawn as
the last. -/
structure Positions where
  size : Nat
  indices : List Nat
  done : Bool
  deriving DecidableEq, Repr

namespace Positions

/-- The state before the first choice. When more positions are wanted than there are, there is no choice. -/
def start (size count : Nat) : Positions :=
  ⟨size, List.range count, size < count⟩

/-- The next choice in lexicographic order. The last entry that may still grow grows by one, and the entries behind it follow
it closely; an entry may grow as long as those behind it then still fit below the size. -/
def successor? (size : Nat) : List Nat → Option (List Nat)
  | [] => none
  | x :: xs =>
    match successor? size xs with
    | some later => some (x :: later)
    | none => if x + xs.length + 1 < size then some (List.range' (x + 1) (xs.length + 1)) else none

/-- Draws a choice. Behind the last one the state keeps it and is done. -/
def next? (s : Positions) : Option (List Nat × Positions) :=
  if s.done then none
  else
    match successor? s.size s.indices with
    | some later => some (s.indices, { s with indices := later })
    | none => some (s.indices, { s with done := true })

/-- How far a list of indices is from the greatest, read as a numeral of radix `size + 1`. -/
def distance (size : Nat) : List Nat → Nat
  | [] => 0
  | x :: xs => (size - x) * (size + 1).pow xs.length + distance size xs

theorem distance_lt (size : Nat) (xs : List Nat) : distance size xs < (size + 1).pow xs.length := by
  induction xs with
  | nil => simp [distance]
  | cons x xs ih =>
    have : (size - x) * (size + 1) ^ xs.length ≤ size * (size + 1) ^ xs.length :=
      Nat.mul_le_mul_right _ (Nat.sub_le _ _)
    simp only [distance, List.length_cons, Nat.pow_eq, Nat.pow_succ, Nat.mul_add, Nat.mul_one] at ih ⊢
    rw [Nat.mul_comm _ size]
    omega

/-- The next choice has as many entries. -/
theorem length_of_successor? {size : Nat} {xs ys : List Nat} (h : successor? size xs = some ys) : ys.length = xs.length := by
  induction xs generalizing ys with
  | nil => simp [successor?] at h
  | cons x xs ih =>
    simp only [successor?] at h
    split at h
    · rename_i later hl
      cases h
      simp [ih hl]
    · split at h <;> cases h
      simp

/-- The next choice is nearer to the greatest. -/
theorem distance_successor?_lt {size : Nat} {xs ys : List Nat} (h : successor? size xs = some ys) :
    distance size ys < distance size xs := by
  induction xs generalizing ys with
  | nil => simp [successor?] at h
  | cons x xs ih =>
    simp only [successor?] at h
    split at h
    · rename_i later hl
      cases h
      simpa [distance, length_of_successor? hl] using ih hl
    · split at h
      · rename_i room
        cases h
        have tail := distance_lt size (List.range' (x + 1 + 1) xs.length)
        have step : size - x = (size - (x + 1)) + 1 := by omega
        simp only [List.range'_succ, distance, List.length_range'] at tail ⊢
        rw [step, Nat.succ_mul]
        omega
      · cases h

instance : Enumeration Positions (List Nat) where
  next? := next?
  bound s := if s.done then 0 else distance s.size s.indices + 1
  bound_lt {s rest item} h := by
    unfold next? at h
    split at h
    · cases h
    · rename_i more
      split at h
      · rename_i later hl
        cases h
        simpa [more] using distance_successor?_lt hl
      · cases h
        simp [more]

end Positions

end KeyText
