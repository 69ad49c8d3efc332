import KeyText.Search.Positions
import Mathlib.Data.List.Sort
import Mathlib.Data.Nat.Choose.Basic

/-!
# Choices of positions are enumerated in lexicographic order

`choices` lists the ways to choose some elements of a list, by recursion on the list. Over an ascending list it is the
lexicographic order (`pairwise_lt_choices`), and it leaves no choice out (`mem_choices_iff`). The stateful enumeration of
positions yields this list (`toList_start`): `following` is what comes behind one choice, and the successor is its first member.
-/

namespace KeyText.Positions

/-! ## All choices -/

/-- The ways to choose so many elements of a list, in its order; those with its first element come first. -/
def choices : List Nat → Nat → List (List Nat)
  | _, 0 => [[]]
  | [], _ + 1 => []
  | x :: xs, r + 1 => (choices xs r).map (x :: ·) ++ choices xs (r + 1)

/-- The choices are the sublists of the length that is asked for. -/
theorem mem_choices_iff {l xs : List Nat} {r : Nat} : xs ∈ choices l r ↔ xs.Sublist l ∧ xs.length = r := by
  induction l generalizing xs r with
  | nil =>
    cases r with
    | zero => simp [choices]
    | succ r =>
      simp only [choices, List.not_mem_nil, List.sublist_nil, false_iff, not_and]
      rintro rfl
      simp
  | cons x l ih =>
    cases r with
    | zero =>
      simp only [choices, List.mem_singleton, List.length_eq_zero_iff]
      exact ⟨fun h => ⟨h ▸ List.nil_sublist _, h⟩, fun h => h.2⟩
    | succ r =>
      simp only [choices, List.mem_append, List.mem_map, ih, List.sublist_cons_iff]
      constructor
      · rintro (⟨ys, ⟨hsub, hlen⟩, rfl⟩ | ⟨hsub, hlen⟩)
        · exact ⟨Or.inr ⟨ys, rfl, hsub⟩, by rw [List.length_cons, hlen]⟩
        · exact ⟨Or.inl hsub, hlen⟩
      · rintro ⟨hsub | ⟨ys, rfl, hsub⟩, hlen⟩
        · exact Or.inr ⟨hsub, hlen⟩
        · exact Or.inl ⟨ys, ⟨hsub, Nat.succ.inj hlen⟩, rfl⟩

/-- Fewer elements than are asked for leave no choice. -/
theorem choices_eq_nil {l : List Nat} {r : Nat} (h : l.length < r) : choices l r = [] := by
  rw [List.eq_nil_iff_forall_not_mem]
  intro xs hxs
  obtain ⟨hsub, hlen⟩ := mem_choices_iff.mp hxs
  have := hsub.length_le
  omega

/-- There are as many choices as a binomial coefficient counts. -/
theorem length_choices (l : List Nat) (r : Nat) : (choices l r).length = l.length.choose r := by
  induction l generalizing r with
  | nil => cases r <;> rfl
  | cons x l ih =>
    cases r with
    | zero => rw [choices, List.length_singleton, Nat.choose_zero_right]
    | succ r => rw [choices, List.length_append, List.length_map, ih, ih, List.length_cons, Nat.choose_succ_succ]

/-- The choices from an ascending list are in ascending lexicographic order, so none comes twice. -/
theorem pairwise_lt_choices {l : List Nat} (h : l.Pairwise (· < ·)) (r : Nat) : (choices l r).Pairwise (· < ·) := by
  induction l generalizing r with
  | nil => cases r <;> simp [choices]
  | cons x l ih =>
    obtain ⟨hhead, htail⟩ := List.pairwise_cons.mp h
    cases r with
    | zero => simp [choices]
    | succ r =>
      rw [choices, List.pairwise_append]
      refine ⟨?_, ih htail (r + 1), ?_⟩
      · rw [List.pairwise_map]
        exact (ih htail r).imp fun hlt => List.cons_lt_cons_self.mpr hlt
      · -- A choice with the first element comes before one whose first entry is a later element.
        intro xs hxs ys hys
        obtain ⟨xs, -, rfl⟩ := List.mem_map.mp hxs
        obtain ⟨hsub, hlen⟩ := mem_choices_iff.mp hys
        cases ys with
        | nil => simp at hlen
        | cons y ys => exact List.Lex.rel (hhead y (hsub.subset List.mem_cons_self))

/-- The choices of positions below a size are the ascending lists of positions below it. -/
theorem mem_choices_range_iff {n r : Nat} {xs : List Nat} :
    xs ∈ choices (List.range n) r ↔ xs.Pairwise (· < ·) ∧ (∀ x ∈ xs, x < n) ∧ xs.length = r := by
  rw [mem_choices_iff, ← and_assoc]
  refine and_congr_left fun _ => ⟨fun h => ?_, fun ⟨hasc, hlt⟩ => ?_⟩
  · exact ⟨List.pairwise_lt_range.sublist h, fun x hx => List.mem_range.mp (h.subset hx)⟩
  · apply List.sublist_of_subperm_of_pairwise (r := (· ≤ ·))
    · exact (List.subperm_of_subset (hasc.imp Nat.ne_of_lt) fun x hx => List.mem_range.mpr (hlt x hx))
    · exact hasc.imp Nat.le_of_lt
    · exact List.pairwise_lt_range.imp Nat.le_of_lt

/-! ## The choices behind one -/

/-- The choices that come behind one: those that keep its first entry, and then those that begin with a greater one. -/
def following (n : Nat) : List Nat → List (List Nat)
  | [] => []
  | x :: xs => (following n xs).map (x :: ·) ++ choices (List.range' (x + 1) (n - (x + 1))) (xs.length + 1)

/-- The first choice from a stretch of positions is the start of the stretch, and the others follow it. -/
theorem choices_range' (lo k r : Nat) (h : r ≤ k) :
    choices (List.range' lo k) r = List.range' lo r :: following (lo + k) (List.range' lo r) := by
  induction r generalizing lo k with
  | zero => simp [choices, following]
  | succ r ih =>
    obtain ⟨k, rfl⟩ : ∃ k', k = k' + 1 := ⟨k - 1, by omega⟩
    have hsize : lo + (k + 1) - (lo + 1) = k := by omega
    have hend : lo + 1 + k = lo + (k + 1) := by omega
    rw [List.range'_succ, choices, ih (lo + 1) k (by omega), List.range'_succ, following, List.length_range', hsize,
      List.map_cons, List.cons_append, hend]

/-- The successor of a choice is the first of those behind it, and behind the successor come the others. -/
theorem following_eq (n : Nat) (xs : List Nat) :
    following n xs = match successor? n xs with
      | some ys => ys :: following n ys
      | none => [] := by
  induction xs with
  | nil => rfl
  | cons x xs ih =>
    rw [successor?, following]
    cases hs : successor? n xs with
    | some later =>
      rw [hs] at ih
      simp only [ih, List.map_cons, List.cons_append, following, length_of_successor? hs]
    | none =>
      rw [hs] at ih
      simp only [ih, List.map_nil, List.nil_append]
      by_cases hroom : x + xs.length + 1 < n
      · have hend : x + 1 + (n - (x + 1)) = n := by omega
        rw [if_pos hroom, choices_range' _ _ _ (by omega), hend]
      · rw [if_neg hroom, choices_eq_nil]
        rw [List.length_range']
        omega

/-! ## The enumeration -/

/-- From a state that is not done, the enumeration yields its choice and those that follow it. -/
theorem toList_eq_cons_following (n : Nat) (xs : List Nat) :
    Enumeration.toList (⟨n, xs, false⟩ : Positions) = xs :: following n xs := by
  induction h : following n xs generalizing xs with
  | nil =>
    rw [following_eq] at h
    cases hs : successor? n xs with
    | some later => simp [hs] at h
    | none =>
      have hnext : Enumeration.next? (⟨n, xs, false⟩ : Positions) = some (xs, ⟨n, xs, true⟩) := by
        simp [Enumeration.next?, next?, hs]
      rw [Enumeration.toList_eq_cons hnext, Enumeration.toList_eq_nil rfl]
  | cons ys rest ih =>
    rw [following_eq] at h
    cases hs : successor? n xs with
    | none => simp [hs] at h
    | some later =>
      simp only [hs, List.cons.injEq] at h
      obtain ⟨rfl, hrest⟩ := h
      have hnext : Enumeration.next? (⟨n, xs, false⟩ : Positions) = some (xs, ⟨n, later, false⟩) := by
        simp [Enumeration.next?, next?, hs]
      rw [Enumeration.toList_eq_cons hnext, ih later hrest]

/-- The enumeration of positions yields all choices, in lexicographic order. -/
theorem toList_start (n r : Nat) : Enumeration.toList (start n r) = choices (List.range n) r := by
  rw [start, List.range_eq_range', List.range_eq_range']
  by_cases h : n < r
  · rw [choices_eq_nil (by rwa [List.length_range']), Enumeration.toList_eq_nil]
    simp [Enumeration.next?, next?, h]
  · rw [choices_range' 0 n r (Nat.le_of_not_lt h), Nat.zero_add, ← toList_eq_cons_following]
    simp [h]

end KeyText.Positions
