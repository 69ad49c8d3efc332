import KeyText.Search.Enumeration

/-!
# Drawing from an enumeration, and from copies of it

A draw takes the first of the items that are left, and at the end it changes nothing. So `after k`, the state behind so many
draws, tells all: skipping items, taking some and drawing one come down to it (`drawNth_eq`, `take_eq`), and so does every state
that a mix of these leads to, also where copies of a state are drawn from by turns (`exists_after_of_mem_copiesAfter`).

How many items were drawn on the way to a state is told by a state that counts them, `Counted`: it is an enumeration itself, with
the operations of every enumeration, and the count has no part in them (`map_state_copiesAfter`). What was drawn and what is left is
what there was at the start, in every copy (`left_of_mem_copiesAfter`).
-/

namespace KeyText.Enumeration

variable {σ α : Type} [Enumeration σ α]

/-- The state behind so many draws. -/
def after : Nat → σ → σ
  | 0, s => s
  | k + 1, s => after k (draw s).2

/-! ## One draw -/

/-- A draw gives the next item. -/
theorem draw_eq_some {s rest : σ} {item : α} (h : next? s = some (item, rest)) : draw s = (some item, rest) := by
  rw [draw, h]

/-- At the end a draw gives nothing, and the state stays as it is. -/
theorem draw_eq_none {s : σ} (h : next? s = none) : draw s = (none, s) := by
  rw [draw, h]

/-- Where no items are left, there is no next one. -/
theorem next?_eq_none {s : σ} (h : toList s = []) : next? s = none := by
  cases hnext : next? s with
  | none => rfl
  | some next =>
    rw [toList_eq_cons hnext] at h
    exact absurd h (List.cons_ne_nil _ _)

/-- A draw gives the first of the items that are left. -/
theorem fst_draw (s : σ) : (draw s).1 = (toList s).head? := by
  cases hnext : next? s with
  | none => rw [draw_eq_none hnext, toList_eq_nil hnext, List.head?_nil]
  | some next => rw [draw_eq_some hnext, toList_eq_cons hnext, List.head?_cons]

/-- Behind a draw the others are left. -/
theorem toList_draw (s : σ) : toList (draw s).2 = (toList s).tail := by
  cases hnext : next? s with
  | none => rw [draw_eq_none hnext, toList_eq_nil hnext, List.tail_nil]
  | some next => rw [draw_eq_some hnext, toList_eq_cons hnext, List.tail_cons]

/-! ## Many draws -/

/-- At the end more draws change nothing. -/
theorem after_eq_self {s : σ} (h : next? s = none) (k : Nat) : after k s = s := by
  induction k with
  | zero => rfl
  | succ k ih => rw [after, draw_eq_none h, ih]

/-- Draws behind draws. -/
theorem after_add (k l : Nat) (s : σ) : after (k + l) s = after l (after k s) := by
  induction k generalizing s with
  | zero => rw [Nat.zero_add, after]
  | succ k ih => rw [Nat.succ_add, after, after, ih]

/-- Behind so many draws, so many items fewer are left. -/
theorem toList_after (k : Nat) (s : σ) : toList (after k s) = (toList s).drop k := by
  induction k generalizing s with
  | zero => rw [after, List.drop_zero]
  | succ k ih => rw [after, ih, toList_draw, List.drop_tail]

/-- A draw behind so many others gives the item at that place. -/
theorem fst_draw_after (k : Nat) (s : σ) : (draw (after k s)).1 = (toList s)[k]? := by
  rw [fst_draw, toList_after, List.head?_drop]

/-- As many draws as there are items lead to the end. -/
theorem next?_after_length (s : σ) : next? (after (toList s).length s) = none := by
  apply next?_eq_none
  rw [toList_after, List.drop_length]

/-- Draws behind the last item lead nowhere else. -/
theorem after_eq_of_length_le {s : σ} {k : Nat} (h : (toList s).length ≤ k) : after k s = after (toList s).length s := by
  obtain ⟨more, rfl⟩ := Nat.exists_eq_add_of_le h
  rw [after_add, after_eq_self (next?_after_length s)]

/-- Behind the last item every draw gives nothing, and the state stays as it is. -/
theorem draw_after_of_length_le {s : σ} {k : Nat} (h : (toList s).length ≤ k) : draw (after k s) = (none, after k s) := by
  rw [after_eq_of_length_le h]
  exact draw_eq_none (next?_after_length s)

/-- Taking items is drawing them one after the other. -/
theorem take_eq (k : Nat) (s : σ) : take k s = ((toList s).take k, after k s) := by
  induction k generalizing s with
  | zero => rw [take, List.take_zero, after]
  | succ k ih =>
    rw [take, after]
    cases hnext : next? s with
    | none =>
      rw [draw_eq_none hnext, after_eq_self hnext, toList_eq_nil hnext, List.take_nil]
    | some next =>
      dsimp only
      rw [ih, draw_eq_some hnext, toList_eq_cons hnext, List.take_succ_cons]

/-- Drawing an item behind some that are skipped is drawing these and then it. -/
theorem drawNth_eq (k : Nat) (s : σ) : drawNth k s = ((toList s)[k]?, after (k + 1) s) := by
  induction k generalizing s with
  | zero =>
    rw [drawNth, ← fst_draw_after]
    rfl
  | succ k ih =>
    rw [drawNth, after]
    cases hnext : next? s with
    | none => rw [draw_eq_none hnext, after_eq_self hnext, toList_eq_nil hnext, List.getElem?_nil]
    | some next =>
      dsimp only
      rw [ih, draw_eq_some hnext, toList_eq_cons hnext, List.getElem?_cons_succ]

/-- What drawing one item keeps, drawing any number of items keeps. -/
theorem take_induct {motive : σ → Prop}
    (step : ∀ s item rest, next? s = some (item, rest) → motive s → motive rest) (count : Nat) {s : σ} (h : motive s) :
    motive (take count s).2 := by
  induction count generalizing s with
  | zero => exact h
  | succ count ih =>
    rw [take]
    cases hnext : next? s with
    | none => exact h
    | some next => exact ih (step s next.1 next.2 hnext h)

/-- The items that are drawn and those that are left behind them are the items that were left before. -/
theorem toList_take (count : Nat) (s : σ) : (take count s).1 ++ toList (take count s).2 = toList s := by
  rw [take_eq, toList_after, List.take_append_drop]

/-! ## Copies -/

/-- What is done to one of several copies: an item is drawn, with or without skipping some, or a few items are, or it is copied. -/
inductive Use where
  | draw (copy : Nat)
  | drawNth (copy skipped : Nat)
  | take (copy count : Nat)
  | copy (copy : Nat)

/-- The copies behind a use of one of them. The others stay as they are; a new copy comes last. -/
def Use.act : Use → List σ → List σ
  | .draw i, copies => copies.modify i fun s => (Enumeration.draw s).2
  | .drawNth i skipped, copies => copies.modify i fun s => (Enumeration.drawNth skipped s).2
  | .take i count, copies => copies.modify i fun s => (Enumeration.take count s).2
  | .copy i, copies => copies ++ copies[i]?.toList

/-- The copies behind a mix of uses, one after the other. -/
def copiesAfter : List Use → List σ → List σ
  | [], copies => copies
  | use :: uses, copies => copiesAfter uses (use.act copies)

/-- A member of a list in which one member was changed is a member of the list, or the changed one. -/
theorem mem_or_exists_of_mem_modify {β : Type} {f : β → β} {l : List β} {i : Nat} {b : β} (h : b ∈ l.modify i f) :
    b ∈ l ∨ ∃ a ∈ l, f a = b := by
  obtain ⟨j, hj⟩ := List.mem_iff_getElem?.mp h
  rw [List.getElem?_modify] at hj
  obtain ⟨a, ha, rfl⟩ := Option.map_eq_some_iff.mp hj
  have hmem := List.mem_of_getElem? ha
  by_cases hij : i = j
  · rw [if_pos hij]
    exact Or.inr ⟨a, hmem, rfl⟩
  · rw [if_neg hij]
    exact Or.inl hmem

/-- Each copy behind a use comes of one before it by draws. -/
theorem Use.exists_after_of_mem {use : Use} {before : List σ} {s : σ} (h : s ∈ use.act before) :
    ∃ earlier ∈ before, ∃ k, s = after k earlier := by
  cases use with
  | draw i =>
    rcases mem_or_exists_of_mem_modify h with hmem | ⟨earlier, hmem, rfl⟩
    · exact ⟨s, hmem, 0, rfl⟩
    · exact ⟨earlier, hmem, 1, rfl⟩
  | drawNth i skipped =>
    rcases mem_or_exists_of_mem_modify h with hmem | ⟨earlier, hmem, rfl⟩
    · exact ⟨s, hmem, 0, rfl⟩
    · exact ⟨earlier, hmem, skipped + 1, by rw [drawNth_eq]⟩
  | take i count =>
    rcases mem_or_exists_of_mem_modify h with hmem | ⟨earlier, hmem, rfl⟩
    · exact ⟨s, hmem, 0, rfl⟩
    · exact ⟨earlier, hmem, count, by rw [take_eq]⟩
  | copy i =>
    rcases List.mem_append.mp h with hmem | hmem
    · exact ⟨s, hmem, 0, rfl⟩
    · exact ⟨s, List.mem_of_getElem? (Option.mem_toList.mp hmem), 0, rfl⟩

/-- Each copy behind a mix of uses comes of one at the start by draws. -/
theorem exists_after_of_mem_copiesAfter {uses : List Use} {before : List σ} {s : σ} (h : s ∈ copiesAfter uses before) :
    ∃ start ∈ before, ∃ k, s = after k start := by
  induction uses generalizing before with
  | nil => exact ⟨s, h, 0, rfl⟩
  | cons use uses ih =>
    obtain ⟨earlier, hearlier, k, rfl⟩ := ih h
    obtain ⟨start, hstart, l, rfl⟩ := use.exists_after_of_mem hearlier
    exact ⟨start, hstart, l + k, (after_add l k start).symm⟩

/-! ## Counting what was drawn -/

/-- A state, and the number of items that were drawn on the way to it. -/
structure Counted (σ : Type) where
  state : σ
  drawn : Nat

/-- Drawing from a state that counts is drawing from the state, and an item that is drawn is counted. -/
instance : Enumeration (Counted σ) α where
  next? c := (next? c.state).map fun (item, rest) => (item, ⟨rest, c.drawn + 1⟩)
  bound c := bound c.state
  bound_lt {c rest item} h := by
    obtain ⟨next, hnext, heq⟩ := Option.map_eq_some_iff.mp h
    cases heq
    exact bound_lt hnext

/-- The count has no part in a draw. -/
theorem Counted.state_draw (c : Counted σ) : (draw c).2.state = (draw c.state).2 := by
  cases hnext : next? c.state with
  | none => rw [draw_eq_none (Option.map_eq_none_iff.mpr hnext), draw_eq_none hnext]
  | some next =>
    have h : next? c = some (next.1, ⟨next.2, c.drawn + 1⟩) := Option.map_eq_some_iff.mpr ⟨next, hnext, rfl⟩
    rw [draw_eq_some h, draw_eq_some hnext]

theorem Counted.state_after (k : Nat) (c : Counted σ) : (after k c).state = after k c.state := by
  induction k generalizing c with
  | zero => rfl
  | succ k ih => rw [after, after, ih, state_draw]

/-- What was drawn and what is left are as many as before, whatever is drawn. -/
theorem Counted.drawn_after (k : Nat) (c : Counted σ) :
    (after k c).drawn + (toList (after k c).state).length = c.drawn + (toList c.state).length := by
  induction k generalizing c with
  | zero => rfl
  | succ k ih =>
    rw [after, ih]
    cases hnext : next? c.state with
    | none => rw [draw_eq_none (Option.map_eq_none_iff.mpr hnext)]
    | some next =>
      have h : next? c = some (next.1, ⟨next.2, c.drawn + 1⟩) := Option.map_eq_some_iff.mpr ⟨next, hnext, rfl⟩
      rw [draw_eq_some h, toList_eq_cons hnext, List.length_cons, Nat.add_right_comm, Nat.add_assoc]

/-- The count has no part in a use of a copy. -/
theorem Use.map_state_act (use : Use) (before : List (Counted σ)) :
    (use.act before).map Counted.state = use.act (before.map Counted.state) := by
  have hmodify : ∀ (i : Nat) (f : Counted σ → Counted σ) (g : σ → σ), (∀ c, (f c).state = g c.state) →
      (before.modify i f).map Counted.state = (before.map Counted.state).modify i g := by
    intro i f g hfg
    apply List.ext_getElem?
    intro j
    rw [List.getElem?_map, List.getElem?_modify, List.getElem?_modify, List.getElem?_map]
    cases before[j]? with
    | none => rfl
    | some c =>
      by_cases hij : i = j
      · simp [hij, hfg]
      · simp [hij]
  cases use with
  | draw i => exact hmodify i _ _ Counted.state_draw
  | drawNth i skipped =>
    refine hmodify i _ _ fun c => ?_
    rw [drawNth_eq, drawNth_eq, Counted.state_after]
  | take i count =>
    refine hmodify i _ _ fun c => ?_
    rw [take_eq, take_eq, Counted.state_after]
  | copy i =>
    rw [act, act, List.map_append, List.getElem?_map]
    cases before[i]? <;> rfl

/-- The count has no part in a mix of uses. -/
theorem map_state_copiesAfter (uses : List Use) (before : List (Counted σ)) :
    (copiesAfter uses before).map Counted.state = copiesAfter uses (before.map Counted.state) := by
  induction uses generalizing before with
  | nil => rfl
  | cons use uses ih => rw [copiesAfter, copiesAfter, ih, Use.map_state_act]

/-- In every copy behind a mix of uses, all items are left but as many as were drawn on the way to it, the first ones. -/
theorem left_of_mem_copiesAfter {uses : List Use} {s : σ} {c : Counted σ} (h : c ∈ copiesAfter uses [⟨s, 0⟩]) :
    c.drawn ≤ (toList s).length ∧ toList c.state = (toList s).drop c.drawn := by
  obtain ⟨start, hstart, k, rfl⟩ := exists_after_of_mem_copiesAfter h
  obtain rfl := List.mem_singleton.mp hstart
  have hdrawn := Counted.drawn_after k (⟨s, 0⟩ : Counted σ)
  rw [Counted.state_after, toList_after, List.length_drop] at hdrawn
  dsimp only at hdrawn
  rw [Counted.state_after, toList_after]
  refine ⟨by omega, ?_⟩
  rcases Nat.le_total k (toList s).length with hle | hge
  · congr 1
    omega
  · rw [List.drop_eq_nil_of_le hge, List.drop_eq_nil_of_le (by omega)]

end KeyText.Enumeration
