import KeyText.Proofs.Search.Drawing
import KeyText.Proofs.Search.Odometer
import KeyText.Proofs.Search.Positions

/-!
# The states of an enumeration stay within bounds

What one draw keeps, every state that draws lead to has (`Enumeration.take_induct`), and the items that are left in such a
state are the last of those at the start (`Enumeration.toList_take`). So the digits of an odometer stay below 58, and a state of
the choices of positions that is not done holds one of the choices.

The step from one choice of positions to the next is written here a second time, entry by entry and by index:
`Positions.advance?` fails where an index lies outside the choice or where a difference would be negative. On the states that
draws lead to it never fails, and it is the step of the enumeration (`Positions.advance?_eq_successor?`).
-/

namespace KeyText

/-! ## The states of an odometer -/

namespace Odometer

/-- Adding one to digits below 58 gives digits below 58. -/
theorem lt_of_mem_increment {digits : List UInt8} (h : ∀ digit ∈ digits, digit.toNat < 58) {digit : UInt8}
    (hdigit : digit ∈ (increment digits).1) : digit.toNat < 58 := by
  obtain ⟨k, hk, hreading⟩ := exists_reading_eq h
  rw [← hreading, increment_reading hk] at hdigit
  split at hdigit
  · rename_i hnext
    exact lt_of_mem_reading hnext hdigit
  · exact lt_of_mem_reading (Nat.pow_pos (by decide)) hdigit

/-- The digits of every state that draws lead to are below 58. -/
theorem lt_of_mem_digits_take (r drawn : Nat) :
    ∀ digit ∈ (Enumeration.take drawn (start r)).2.digits, digit.toNat < 58 := by
  refine Enumeration.take_induct (motive := fun s : Odometer => ∀ digit ∈ s.digits, digit.toNat < 58) ?_ drawn ?_
  · intro s digits rest hnext h
    change next? s = some (digits, rest) at hnext
    rw [next?] at hnext
    split at hnext
    · cases hnext
    · cases hnext
      exact fun digit => lt_of_mem_increment h
  · intro digit hdigit
    rw [List.eq_of_mem_replicate hdigit]
    decide

end Odometer

namespace Positions

/-! ## The step by index -/

/-- A difference that must not be negative. -/
def sub? (a b : Nat) : Option Nat :=
  if b ≤ a then some (a - b) else none

/-- Whether the entry at an index is below the greatest that it may have there. -/
def mayGrow? (size : Nat) (indices : List Nat) (i : Nat) : Option Bool := do
  let entry ← indices[i]?
  let room ← sub? size indices.length
  return decide (entry < room + i)

/-- The last of the first few indices at which the entry may grow, if there is one. -/
def lastGrowing? (size : Nat) (indices : List Nat) : Nat → Option (Option Nat)
  | 0 => some none
  | i + 1 => do
    if ← mayGrow? size indices i then return some i
    lastGrowing? size indices i

/-- Makes so many entries, from the one at an index on, greater by one than the entry before them. -/
def follow? (indices : List Nat) : (steps i : Nat) → Option (List Nat)
  | 0, _ => some indices
  | steps + 1, i => do
    let entry ← indices[← sub? i 1]?
    if i < indices.length then follow? (indices.set i (entry + 1)) steps (i + 1) else none

/-- The next choice in lexicographic order, if there is one; nothing at all where an index or a difference is out of range. -/
def advance? (size : Nat) (indices : List Nat) : Option (Option (List Nat)) := do
  match ← lastGrowing? size indices indices.length with
  | none => return none
  | some i =>
    let entry ← indices[i]?
    return some (← follow? (indices.set i (entry + 1)) (indices.length - (i + 1)) (i + 1))

/-! ## The step by index is the step of the enumeration -/

/-- An entry may grow where it is closer to the size than the entries from it on can fill. -/
theorem mayGrow?_eq {size : Nat} {indices : List Nat} (hfits : indices.length ≤ size) {i : Nat} (hi : i < indices.length) :
    mayGrow? size indices i = some (decide (indices[i] + indices.length < size + i)) := by
  have hroom : indices[i] < size - indices.length + i ↔ indices[i] + indices.length < size + i := by omega
  simp only [mayGrow?, List.getElem?_eq_getElem hi, sub?, if_pos hfits, Option.bind_eq_bind, Option.bind_some,
    Option.pure_def, hroom]

/-- Where no entry may grow there is no next choice. -/
theorem successor?_eq_none {size : Nat} {xs : List Nat}
    (h : ∀ i (hi : i < xs.length), ¬xs[i] + xs.length < size + i) : successor? size xs = none := by
  induction xs with
  | nil => rfl
  | cons x xs ih =>
    have htail : successor? size xs = none := by
      refine ih fun i hi => ?_
      have := h (i + 1) (Nat.succ_lt_succ hi)
      simp only [List.getElem_cons_succ, List.length_cons] at this
      omega
    have hhead := h 0 (Nat.succ_pos _)
    simp only [List.getElem_cons_zero, List.length_cons, Nat.add_zero] at hhead
    rw [successor?, htail]
    dsimp only
    rw [if_neg (by omega)]

/-- The next choice keeps the entries before one that may grow, if none behind it may: this one grows by one, and those behind
it follow it. -/
theorem successor?_append_cons {size : Nat} (before : List Nat) {x : Nat} {after : List Nat}
    (hgrows : x + after.length + 1 < size) (hlast : successor? size after = none) :
    successor? size (before ++ x :: after) = some (before ++ List.range' (x + 1) (after.length + 1)) := by
  induction before with
  | nil =>
    rw [List.nil_append, successor?, hlast]
    dsimp only
    rw [if_pos hgrows, List.nil_append]
  | cons y before ih =>
    rw [List.cons_append, successor?, ih]
    rfl

/-- Entries that follow the one before them are a stretch that begins with it. -/
theorem follow?_append_cons (before : List Nat) (x : Nat) (after : List Nat) :
    follow? (before ++ x :: after) after.length (before.length + 1) =
      some (before ++ List.range' x (after.length + 1)) := by
  induction after generalizing before x with
  | nil => rfl
  | cons y after ih =>
    have hbefore : sub? (before.length + 1) 1 = some before.length := by
      rw [sub?, if_pos (Nat.le_add_left 1 _), Nat.add_sub_cancel]
    have hentry : (before ++ x :: y :: after)[before.length]? = some x := by
      rw [List.getElem?_append_right (Nat.le_refl _), Nat.sub_self]
      rfl
    have hplace : before.length + 1 < (before ++ x :: y :: after).length := by
      rw [List.length_append, List.length_cons, List.length_cons]
      omega
    have hset : (before ++ x :: y :: after).set (before.length + 1) (x + 1) = before ++ [x] ++ (x + 1) :: after := by
      rw [List.set_append_right _ _ (Nat.le_add_right _ 1), Nat.add_sub_cancel_left, List.append_assoc]
      rfl
    have hlength : before.length + 1 = (before ++ [x]).length := by
      rw [List.length_append, List.length_singleton]
    rw [List.length_cons, follow?, hbefore]
    simp only [Option.bind_eq_bind, Option.bind_some, hentry, if_pos hplace, hset]
    rw [hlength, ih, List.append_assoc]
    rfl

/-- The search for the entry that grows finds the last that may, among those it looks at. -/
theorem lastGrowing?_eq {size : Nat} {indices : List Nat} (hfits : indices.length ≤ size) {count : Nat}
    (hcount : count ≤ indices.length) :
    (lastGrowing? size indices count = some none ∧
        ∀ i (hi : i < indices.length), i < count → ¬indices[i] + indices.length < size + i) ∨
      ∃ i, ∃ hi : i < indices.length, lastGrowing? size indices count = some (some i) ∧
        indices[i] + indices.length < size + i ∧
        ∀ j (hj : j < indices.length), i < j → j < count → ¬indices[j] + indices.length < size + j := by
  induction count with
  | zero => exact Or.inl ⟨rfl, fun i _ hlt => absurd hlt (Nat.not_lt_zero i)⟩
  | succ count ih =>
    have hgrow := mayGrow?_eq hfits hcount
    by_cases hmay : indices[count] + indices.length < size + count
    · refine Or.inr ⟨count, hcount, ?_, hmay, fun j _ hlt hle => absurd hlt (Nat.not_lt_of_le (Nat.le_of_lt_succ hle))⟩
      rw [lastGrowing?, hgrow, decide_eq_true hmay]
      rfl
    · have hstep : lastGrowing? size indices (count + 1) = lastGrowing? size indices count := by
        rw [lastGrowing?, hgrow, decide_eq_false hmay]
        rfl
      have hnot : ∀ j (hj : j < indices.length), j < count + 1 → ¬j < count →
          ¬indices[j] + indices.length < size + j := by
        intro j hj hle hge
        obtain rfl : j = count := by omega
        exact hmay
      rw [hstep]
      rcases ih (Nat.le_of_succ_le hcount) with ⟨hnone, hall⟩ | ⟨i, hi, hsome, hgrows, hlast⟩
      · exact Or.inl ⟨hnone, fun j hj hle => (Nat.lt_or_ge j count).elim (hall j hj) fun hge => hnot j hj hle (by omega)⟩
      · exact Or.inr ⟨i, hi, hsome, hgrows, fun j hj hlt hle =>
          (Nat.lt_or_ge j count).elim (hlast j hj hlt) fun hge => hnot j hj hle (by omega)⟩

/-- For a choice that has room, no index of the step lies outside it and no difference is negative, and the step gives the next
choice. -/
theorem advance?_eq_successor? {size : Nat} {indices : List Nat} (hfits : indices.length ≤ size) :
    advance? size indices = some (successor? size indices) := by
  rcases lastGrowing?_eq hfits (Nat.le_refl _) with ⟨hnone, hall⟩ | ⟨i, hi, hsome, hgrows, hlast⟩
  · rw [advance?, hnone, successor?_eq_none fun i hi => hall i hi hi]
    rfl
  · have hsplit : indices = indices.take i ++ indices[i] :: indices.drop (i + 1) := by
      rw [← List.drop_eq_getElem_cons hi, List.take_append_drop]
    have htake : (indices.take i).length = i := by
      rw [List.length_take, Nat.min_eq_left (Nat.le_of_lt hi)]
    have hdrop : (indices.drop (i + 1)).length = indices.length - (i + 1) := List.length_drop
    have hset : indices.set i (indices[i] + 1) = indices.take i ++ (indices[i] + 1) :: indices.drop (i + 1) :=
      List.set_eq_take_append_cons_drop.trans (if_pos hi)
    have hfollow := follow?_append_cons (indices.take i) (indices[i] + 1) (indices.drop (i + 1))
    have hbehind : successor? size (indices.drop (i + 1)) = none := by
      refine successor?_eq_none fun j hj => ?_
      have := hlast (i + 1 + j) (by omega) (by omega) (by omega)
      rw [List.getElem_drop]
      omega
    have hsuccessor := successor?_append_cons (indices.take i) (x := indices[i]) (by omega) hbehind
    rw [htake, hdrop] at hfollow
    rw [← hsplit, hdrop] at hsuccessor
    rw [advance?, hsome, hsuccessor]
    simp only [Option.bind_eq_bind, Option.bind_some, List.getElem?_eq_getElem hi, hset, hfollow, Option.pure_def]

/-! ## The states of the choices of positions -/

/-- Drawing keeps the number of positions there are. -/
theorem size_take (drawn : Nat) (s : Positions) : (Enumeration.take drawn s).2.size = s.size := by
  refine Enumeration.take_induct (motive := fun state : Positions => state.size = s.size) ?_ drawn rfl
  intro state item rest hnext hsize
  change next? state = some (item, rest) at hnext
  rw [next?] at hnext
  split at hnext
  · cases hnext
  · split at hnext <;> cases hnext <;> exact hsize

/-- A state that is not done has the choice that it holds among its items. -/
theorem indices_mem_toList {s : Positions} (h : s.done = false) : s.indices ∈ Enumeration.toList s := by
  obtain ⟨size, indices, done⟩ := s
  subst h
  rw [toList_eq_cons_following]
  exact List.mem_cons_self

/-- A state that is not done holds a choice of as many positions as were asked for. -/
theorem indices_take_start {n r drawn : Nat} (h : (Enumeration.take drawn (start n r)).2.done = false) :
    (Enumeration.take drawn (start n r)).2.indices ∈ choices (List.range n) r := by
  rw [← toList_start, ← Enumeration.toList_take drawn]
  exact List.mem_append_right _ (indices_mem_toList h)

/-- What the next draw from a state may rely on: the entries ascend and are positions, and the step by index succeeds. -/
structure InBounds (n : Nat) (s : Positions) : Prop where
  ascending : s.indices.Pairwise (· < ·)
  below : ∀ p ∈ s.indices, p < n
  step : advance? s.size s.indices = some (successor? s.size s.indices)

/-- Every state that draws lead to is done or within bounds. -/
theorem inBounds_take_start (n r drawn : Nat) :
    (Enumeration.take drawn (start n r)).2.done = true ∨ (Enumeration.take drawn (start n r)).2.InBounds n := by
  cases hdone : (Enumeration.take drawn (start n r)).2.done with
  | true => exact Or.inl rfl
  | false =>
    have hchoice := indices_take_start hdone
    have hfits := (mem_choices_iff.mp hchoice).1.length_le
    obtain ⟨hascending, hbelow, -⟩ := mem_choices_range_iff.mp hchoice
    rw [List.length_range] at hfits
    refine Or.inr ⟨hascending, hbelow, advance?_eq_successor? ?_⟩
    rwa [size_take]

end Positions

end KeyText
