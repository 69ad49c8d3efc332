import KeyText.Proofs.Repair.Consistency
import KeyText.Proofs.Repair.Planned
import KeyText.Proofs.Repair.Preference
import Mathlib.Data.Finset.Sort

/-!
# The number of a place

How many places of a search come before a place is told by the place alone: all places on fewer positions, all on earlier choices
of as many positions, and those with smaller numbers on the same (`length_before_place`). What is found for a text that is not
accepted is tried at the place of its differences, so the number of candidates tried is told by the answer alone
(`tried_closed_form`).
-/

namespace KeyText

/-! ## The rank of a choice -/

namespace Positions

/-- The number of sets of positions below a size that have as many members as a list, and whose ascending lists come before it in
lexicographic order. -/
def rank (n : Nat) (xs : List Nat) : Nat :=
  (((Finset.range n).powersetCard xs.length).filter fun s => s.sort (· ≤ ·) < xs).card

/-- An ascending list is the one of the set of its members. -/
theorem sort_toFinset {xs : List Nat} (h : xs.Pairwise (· < ·)) : xs.toFinset.sort (· ≤ ·) = xs :=
  (List.toFinset_sort (· ≤ ·) (h.imp Nat.ne_of_lt)).mpr (h.imp Nat.le_of_lt)

/-- As many choices come before one as its rank says. -/
theorem length_eq_rank {n r : Nat} {before after : List (List Nat)} {xs : List Nat}
    (h : choices (List.range n) r = before ++ xs :: after) : before.length = rank n xs := by
  have hsorted := pairwise_lt_choices List.pairwise_lt_range r (l := List.range n)
  have hmem : ∀ ys, ys ∈ before ++ xs :: after ↔ ys.Pairwise (· < ·) ∧ (∀ y ∈ ys, y < n) ∧ ys.length = r :=
    fun ys => h ▸ mem_choices_range_iff
  have hlength : xs.length = r := ((hmem xs).mp (List.mem_append_right _ List.mem_cons_self)).2.2
  rw [h, List.pairwise_append, List.pairwise_cons] at hsorted
  obtain ⟨hbefore, ⟨hafter, -⟩, hacross⟩ := hsorted
  have honce : before.Nodup := hbefore.imp ne_of_lt
  rw [← List.toFinset_card_of_nodup honce, rank]
  -- A choice before this one and the set of its members tell each other.
  refine Finset.card_nbij' List.toFinset (fun s => s.sort (· ≤ ·)) ?_ ?_ ?_ ?_
  · intro ys hys
    have hys' := List.mem_toFinset.mp hys
    obtain ⟨hascending, hbelow, hsize⟩ := (hmem ys).mp (List.mem_append_left _ hys')
    rw [Finset.mem_coe, Finset.mem_filter, Finset.mem_powersetCard, sort_toFinset hascending,
      List.toFinset_card_of_nodup (hascending.imp Nat.ne_of_lt), hsize, hlength]
    refine ⟨⟨fun y hy => ?_, rfl⟩, hacross ys hys' xs List.mem_cons_self⟩
    exact Finset.mem_range.mpr (hbelow y (List.mem_toFinset.mp hy))
  · intro s hs
    rw [Finset.mem_coe, Finset.mem_filter, Finset.mem_powersetCard] at hs
    obtain ⟨⟨hsubset, hcard⟩, hlt⟩ := hs
    rw [Finset.mem_coe, List.mem_toFinset]
    have hchoice : s.sort (· ≤ ·) ∈ before ++ xs :: after := by
      refine (hmem _).mpr ⟨(Finset.sortedLT_sort s).pairwise, fun y hy => ?_, ?_⟩
      · exact Finset.mem_range.mp (hsubset ((Finset.mem_sort (· ≤ ·)).mp hy))
      · rw [Finset.length_sort, hcard, hlength]
    rcases List.mem_append.mp hchoice with hbefore | hrest
    · exact hbefore
    · rcases List.mem_cons.mp hrest with hsame | hlater
      · exact absurd hsame (ne_of_lt hlt)
      · exact absurd (hafter _ hlater) (lt_asymm hlt)
  · intro ys hys
    exact sort_toFinset ((hmem ys).mp (List.mem_append_left _ (List.mem_toFinset.mp hys))).1
  · intro s _
    exact Finset.sort_toFinset s (· ≤ ·)

end Positions

namespace Repair

/-! ## The places before a place -/

/-- The places on a choice of positions. -/
def placesOn (positions : List Nat) : List Place :=
  (List.range (58 ^ positions.length)).map (Place.mk positions)

theorem length_placesOn (positions : List Nat) : (placesOn positions).length = 58 ^ positions.length := by
  rw [placesOn, List.length_map, List.length_range]

/-- The number of a place among those of a search of a text of some length: how many places come before it. -/
def Place.index (length : Nat) (place : Place) : Nat :=
  (∑ fewer ∈ Finset.Icc 1 (place.positions.length - 1), length.choose fewer * 58 ^ fewer) +
    Positions.rank length place.positions * 58 ^ place.positions.length + place.number

/-- A level comes behind the lower ones. -/
theorem exists_levels_eq {fewer most : Nat} (h : fewer < most) :
    ∃ higher, List.range' 1 most = List.range' 1 fewer ++ (fewer + 1) :: higher := by
  obtain ⟨more, rfl⟩ : ∃ more, most = fewer + (more + 1) := ⟨most - (fewer + 1), by omega⟩
  rw [← List.range'_append_1, List.range'_succ, Nat.add_comm 1 fewer]
  exact ⟨_, rfl⟩

/-- A place of a search comes behind the places on fewer positions, those on earlier choices of as many positions, and those on the
same positions with smaller numbers. -/
theorem exists_places_eq {length maxChanges : Nat} {place : Place} (h : place.Within length maxChanges) :
    ∃ before after, places length maxChanges = before ++ place :: after ∧
      before.length = place.index length := by
  obtain ⟨positions, number⟩ := place
  obtain ⟨fewer, hfewer⟩ : ∃ fewer, positions.length = fewer + 1 := Nat.exists_eq_add_one.mpr h.some_position
  have hchoice : positions ∈ Positions.choices (List.range length) (fewer + 1) :=
    Positions.mem_choices_range_iff.mpr ⟨h.ascending, h.inside, hfewer⟩
  have hmost : fewer + 1 ≤ maxChanges := hfewer ▸ h.most
  have hroom : fewer + 1 ≤ length := by
    have hsublist := (Positions.mem_choices_iff.mp hchoice).1.length_le
    rwa [hfewer, List.length_range] at hsublist
  -- The level among the levels, the choice among those of its level, and the number among those on its choice.
  obtain ⟨higher, hlevels⟩ := exists_levels_eq (Nat.lt_min.mpr ⟨hmost, hroom⟩)
  obtain ⟨earlier, later, hchoices⟩ := List.append_of_mem hchoice
  obtain ⟨greater, hnumbers⟩ := exists_range_eq h.digits
  have hearlier : ∀ other ∈ earlier, other.length = fewer + 1 := by
    intro other hother
    exact (Positions.mem_choices_iff.mp (hchoices ▸ List.mem_append_left _ hother)).2
  have hon : placesOn positions = (List.range number).map (Place.mk positions) ++
      ⟨positions, number⟩ :: greater.map (Place.mk positions) := by
    rw [placesOn, hnumbers, List.map_append, List.map_cons]
  have hplaces : places length maxChanges =
      (List.range' 1 (min maxChanges length)).flatMap fun changes =>
        (Positions.choices (List.range length) changes).flatMap placesOn := rfl
  rw [hplaces, hlevels, List.flatMap_append, List.flatMap_cons, hchoices, List.flatMap_append, List.flatMap_cons, hon]
  simp only [List.append_assoc, List.cons_append]
  rw [← List.append_assoc, ← List.append_assoc]
  refine ⟨_, _, rfl, ?_⟩
  rw [List.length_append, List.length_append, length_levels length_placesOn,
    length_flatMap_choices length_placesOn hearlier, List.length_map, List.length_range, Positions.length_eq_rank hchoices,
    Place.index, hfewer, Nat.add_sub_cancel]

/-- As many places come before one as its number says. -/
theorem length_before_place {length maxChanges : Nat} {before after : List Place} {place : Place}
    (h : places length maxChanges = before ++ place :: after) : before.length = place.index length := by
  have hwithin : place.Within length maxChanges :=
    mem_places_iff.mp (h ▸ List.mem_append_right _ List.mem_cons_self)
  obtain ⟨before', after', h', hlength⟩ := exists_places_eq hwithin
  -- A place comes once, so there is one way to take the list apart at it.
  have honce : (before ++ place :: after).Nodup :=
    h ▸ (pairwise_key_places length maxChanges).imp fun hlt => ne_of_apply_ne Place.key (ne_of_lt hlt)
  obtain ⟨hout, -⟩ := List.nodup_cons.mp (List.nodup_middle.mp honce)
  rw [List.mem_append, not_or] at hout
  obtain ⟨rfl, -, -⟩ := (List.append_cons_inj_of_notMem hout.1 hout.2).mp (h.symm.trans h')
  exact hlength

/-! ## The number of candidates tried -/

/-- For a text that is not accepted, how many candidates a search without a deadline tries before it finds something is told by what
it finds alone. All candidates on fewer positions than were changed come before, then all on the choices of as many positions that
come lexicographically before the changed ones, and then those whose symbols on the changed positions write a smaller number. -/
theorem tried_closed_form {text : String} {checksum : Checksum} {limits : Limits} (hdeadline : limits.deadline = none)
    (hwrong : ¬accepts checksum text) {found : Repaired} (hfound : repair text checksum limits = .ok found) :
    found.changedPositions.length = found.changes ∧
      found.tried = (∑ fewer ∈ Finset.Icc 1 (found.changes - 1), text.length.choose fewer * 58 ^ fewer) +
        Positions.rank text.length found.changedPositions * 58 ^ found.changes +
        numeralOn found.fixed found.changedPositions + 1 := by
  rw [repair_eq_iff hdeadline] at hfound
  obtain ⟨before, after, hplaces, htried, -⟩ := hfound.exists_placeOf hwrong
  have hbefore : before.length = (placeOf text found.fixed).index text.length := length_before_place hplaces
  have hpositions : found.changedPositions = differing text found.fixed := by
    cases hfound
    exact changedPositions_repairedAs _ _ _ _
  have hchanges : found.changes = (differing text found.fixed).length := hfound.found_spec.2.2
  rw [hpositions, hchanges, htried, hbefore]
  exact ⟨rfl, rfl⟩

/-- A text with wrong characters in its first and third places is repaired behind the candidates on single positions and those on
the first two, with the first symbol on both. -/
theorem tried_closed_form_two_wrong_characters :
    ¬accepts zeroDigest "é1l1" ∧
      repair "é1l1" zeroDigest { maxChanges := 2 } = .ok (repairedAs "é1l1" "1111" [] 3597) ∧
      Positions.rank 4 [0, 2] = 1 ∧ numeralOn "1111" [0, 2] = 0 ∧
      3597 = (∑ fewer ∈ Finset.Icc 1 1, Nat.choose 4 fewer * 58 ^ fewer) + Positions.rank 4 [0, 2] * 58 ^ 2 +
        numeralOn "1111" [0, 2] + 1 := by
  have hwrong : ¬accepts zeroDigest "é1l1" := by
    intro haccepts
    exact absurd (mem_alphabet_of_accepts haccepts 'l' (by decide +kernel)) (by decide +kernel)
  have hfound := ends_two_wrong_characters.repair_eq rfl
  have hchoices : Positions.choices (List.range 4) 2 = [[0, 1]] ++ [0, 2] :: [[0, 3], [1, 2], [1, 3], [2, 3]] := by
    decide
  have hrank : [[0, 1]].length = Positions.rank 4 [0, 2] := Positions.length_eq_rank hchoices
  have hpositions : (repairedAs "é1l1" "1111" [] 3597).changedPositions = [0, 2] := by decide +kernel
  have hchanges : (repairedAs "é1l1" "1111" [] 3597).changes = 2 := by decide +kernel
  have hlength : "é1l1".length = 4 := by decide +kernel
  have hfixed : (repairedAs "é1l1" "1111" [] 3597).fixed = "1111" := rfl
  have hfewer : 2 - 1 = 1 := rfl
  obtain ⟨-, htried⟩ := tried_closed_form rfl hwrong hfound
  rw [hpositions, hchanges, hlength, hfixed, hfewer] at htried
  exact ⟨hwrong, hfound, hrank.symm, by decide +kernel, htried⟩

end Repair

end KeyText
