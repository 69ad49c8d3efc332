import KeyText.Repair.Candidate
import KeyText.Search.Odometer
import KeyText.Search.Positions

/-!
# Repair of a mistyped text

A Base58Check text that fails its checksum may differ from a sound one in a few characters. The search writes symbols over
one position after the other, then over pairs of positions, and so on: fewer changes come first, choices of positions go in
lexicographic order, and the symbols on them in numeric order. The first candidate whose checksum matches is the answer, so
the same text and limits always have the same answer. Characters that were dropped or inserted are not searched.

The clock is asked only where a deadline is set: before each choice of positions, and each time another 4096 candidates were
tried. What monad it runs in is left open, so that a real clock and a fixed one serve alike.
-/

namespace KeyText.Repair

/-- How many candidates are tried between two looks at the clock. -/
def pollInterval : Nat := 4096

section Loops

variable {m : Type → Type} [Monad m]

/-- Looks at the clock, if there is a deadline, and says whether the time is over. The clock tells the milliseconds since the
search began; it is told how many candidates were tried. -/
@[specialize] def Limits.isLate (limits : Limits) (clock : Nat → m Nat) (tried : Nat) : m Bool :=
  match limits.deadline with
  | some most => do return decide (most ≤ (← clock tried))
  | none => pure false

/-- Tries the digit vectors that are left on fixed positions. -/
@[specialize] def Problem.trySymbols (problem : Problem) (clock : Nat → m Nat) (positions : List Nat) (odometer : Odometer)
    (cursor : Cursor) : m Step :=
  match _h : Enumeration.next? odometer with
  | none => pure (.more cursor)
  | some (digits, rest) =>
    match problem.tryCandidate positions digits cursor with
    | .stop cursor answer => pure (.stop cursor answer)
    | .more cursor => do
      let late ← if cursor.tried % pollInterval = 0 then problem.limits.isLate clock cursor.tried else pure false
      if late then pure cursor.late else problem.trySymbols clock positions rest cursor
termination_by Enumeration.bound odometer
decreasing_by exact Enumeration.bound_lt _h

/-- Tries the choices of positions that are left, each with all symbols, and reports the progress before each. -/
@[specialize] def Problem.tryPositions (problem : Problem) (clock : Nat → m Nat) (changes : Nat) (positions : Positions)
    (cursor : Cursor) : m Step :=
  match _h : Enumeration.next? positions with
  | none => pure (.more cursor)
  | some (indices, rest) => do
    let cursor := { cursor with reports := cursor.reports.push ⟨changes, cursor.tried⟩ }
    if ← problem.limits.isLate clock cursor.tried then pure cursor.late
    else
      match ← problem.trySymbols clock indices (Odometer.start changes) cursor with
      | .stop cursor answer => pure (.stop cursor answer)
      | .more cursor =>
        match problem.leavePositions indices cursor with
        | .stop cursor answer => pure (.stop cursor answer)
        | .more cursor => problem.tryPositions clock changes rest cursor
termination_by Enumeration.bound positions
decreasing_by exact Enumeration.bound_lt _h

/-- Tries the candidates with `changes`, `changes + 1`, … changed positions, so many steps far. -/
@[specialize] def Problem.tryChanges (problem : Problem) (clock : Nat → m Nat) : (steps changes : Nat) → Cursor → m Step
  | 0, _, cursor => pure (.more cursor)
  | steps + 1, changes, cursor => do
    match ← problem.tryPositions clock changes (Positions.start problem.characters.length changes) cursor with
    | .stop cursor answer => pure (.stop cursor answer)
    | .more cursor => problem.tryChanges clock steps (changes + 1) cursor

/-- Searches for the first candidate whose checksum matches, with a clock. -/
@[specialize] def search (text : String) (checksum : Checksum) (limits : Limits) (clock : Nat → m Nat) : m Outcome := do
  let problem : Problem := ⟨text, characters text, checksum, limits⟩
  let length := problem.characters.length
  let start : Cursor := ⟨problem.characters, 0, List.replicate (Base58.maxDecodedLength length) 0, #[]⟩
  match ← problem.tryChanges clock (min limits.maxChanges length) 1 start with
  | .stop cursor answer => return ⟨answer, cursor.reports⟩
  | .more cursor =>
    return ⟨.error (.exhausted limits.maxChanges cursor.tried (falsePositives cursor.tried)), cursor.reports⟩

end Loops

/-- Searches for the first candidate whose checksum matches, with a clock that stands still at the start. -/
def repair (text : String) (checksum : Checksum) (limits : Limits) : Except Failure Repaired :=
  (Id.run (search text checksum limits fun _ => pure 0)).answer

end KeyText.Repair
