/-!
# Enumerations

A state that yields items one at a time, each with the state for the items behind it. A bound that falls with every item
makes all that walks an enumeration end. The operations are those of a cursor: draw one item, skip some, take some, or look
at all that are left without drawing them.
-/

namespace KeyText

/-- States that yield finitely many items. -/
class Enumeration (σ : Type) (α : outParam Type) where
  /-- The next item and the state behind it; at the end, nothing. -/
  next? : σ → Option (α × σ)
  /-- More than the items that are left. -/
  bound : σ → Nat
  /-- Drawing an item lowers the bound. -/
  bound_lt {s rest : σ} {item : α} : next? s = some (item, rest) → bound rest < bound s

namespace Enumeration

variable {σ α : Type} [Enumeration σ α]

/-- Draws an item; at the end the state stays as it is. -/
def draw (s : σ) : Option α × σ :=
  match next? s with
  | some (item, rest) => (some item, rest)
  | none => (none, s)

/-- Draws and drops some items, fewer if the end comes first, and then draws one. -/
def drawNth : Nat → σ → Option α × σ
  | 0, s => draw s
  | k + 1, s =>
    match next? s with
    | some (_, rest) => drawNth k rest
    | none => (none, s)

/-- Draws some items, fewer if the end comes first. The item behind them is not drawn. -/
def take : Nat → σ → List α × σ
  | 0, s => ([], s)
  | k + 1, s =>
    match next? s with
    | some (item, rest) =>
      let (items, rest) := take k rest
      (item :: items, rest)
    | none => ([], s)

/-- Combines the items that are left with a value, the next item first. -/
def fold {β : Type} (combine : β → α → β) (value : β) (s : σ) : β :=
  match _h : next? s with
  | some (item, rest) => fold combine (combine value item) rest
  | none => value
termination_by bound s
decreasing_by exact bound_lt _h

/-- The items that are left. -/
def toList (s : σ) : List α :=
  match _h : next? s with
  | some (item, rest) => item :: toList rest
  | none => []
termination_by bound s
decreasing_by exact bound_lt _h

/-- The items that are left begin with the next one. -/
theorem toList_eq_cons {s rest : σ} {item : α} (h : next? s = some (item, rest)) : toList s = item :: toList rest := by
  rw [toList]
  split
  · rename_i item' rest' h'
    rw [h] at h'
    cases h'
    rfl
  · rename_i h'
    rw [h] at h'
    cases h'

/-- At the end no items are left. -/
theorem toList_eq_nil {s : σ} (h : next? s = none) : toList s = [] := by
  rw [toList]
  split
  · rename_i item rest h'
    rw [h] at h'
    cases h'
  · rfl

/-- What holds at the end, and of a state where it holds of the state behind the next item, holds of all states. -/
@[elab_as_elim] theorem induct {motive : σ → Prop} (done : ∀ s, next? s = none → motive s)
    (step : ∀ s item rest, next? s = some (item, rest) → motive rest → motive s) (s : σ) : motive s := by
  induction h : bound s using Nat.strongRecOn generalizing s with
  | ind n ih =>
    subst h
    cases hnext : next? s with
    | none => exact done s hnext
    | some next => exact step s next.1 next.2 hnext (ih _ (bound_lt hnext) next.2 rfl)

/-- How many items are left. -/
def count (s : σ) : Nat :=
  fold (fun n _ => n + 1) 0 s

/-- The last of the items that are left. -/
def last? (s : σ) : Option α :=
  fold (fun _ item => some item) none s

/-- Walking an enumeration is folding the list of what it yields. -/
theorem fold_eq_foldl {β : Type} (combine : β → α → β) (value : β) (s : σ) :
    fold combine value s = (toList s).foldl combine value := by
  induction h : bound s using Nat.strongRecOn generalizing value s with
  | ind n ih =>
    subst h
    rw [fold, toList]
    split
    · rename_i item rest h
      exact ih _ (bound_lt h) _ _ rfl
    · rfl

/-- As many items are counted as are left. -/
theorem count_eq_length (s : σ) : count s = (toList s).length := by
  rw [count, fold_eq_foldl, List.foldl_add_const, Nat.one_mul, Nat.zero_add]

end Enumeration

end KeyText
