import KeyText.Proofs.Repair.Places

/-!
# Fewest changes first

A search takes the first place with an accepted candidate, and each text comes first at the place of its differences, so what is
found for a text that is not accepted is found there (`Ends.exists_placeOf`). Of all accepted texts of the length of such a text,
a search that finds something finds one with the fewest differences; of those, the one whose differences are on the
lexicographically least positions; and of those, the one with the least digits there (`repair_fewest_changes`).
-/

namespace KeyText.Repair

open Base58 (alphabet)

section Found

variable {text : String} {checksum : Checksum} {limits : Limits} {found : Repaired}

/-- What is found is accepted, as long as the text, and told with the number of its differences. -/
theorem Ends.found_spec (h : Ends text checksum limits (.ok found)) :
    accepts checksum found.fixed ∧ found.fixed.length = text.length ∧
      found.changes = (differing text found.fixed).length := by
  cases h with
  | found split allowed rejected accepted =>
    have hmem : _ ∈ candidates text limits.maxChanges := split ▸ List.mem_append_right _ List.mem_cons_self
    exact ⟨accepts_iff.mpr ⟨_, accepted⟩, length_of_mem_candidates hmem, rfl⟩

/-- What is found comes at a place of the search, is told with the number of places before it, and at none of these a candidate is
accepted. -/
theorem Ends.exists_place (h : Ends text checksum limits (.ok found)) :
    ∃ (before after : List Place) (place : Place), places text.length limits.maxChanges = before ++ place :: after ∧
      found.tried = before.length + 1 ∧ place.candidate text = found.fixed ∧
      ∀ other : Place, other.Within text.length limits.maxChanges → accepts checksum (other.candidate text) →
        place.key ≤ other.key := by
  cases h with
  | found split allowed rejected accepted =>
    rw [candidates_eq_map] at split
    obtain ⟨before, rest, hplaces, rfl, hrest⟩ := List.map_eq_append_iff.mp split
    obtain ⟨place, after, rfl, rfl, -⟩ := List.map_eq_cons_iff.mp hrest
    have hsorted := pairwise_key_places text.length limits.maxChanges
    rw [hplaces, List.pairwise_append, List.pairwise_cons] at hsorted
    refine ⟨before, after, place, hplaces, by rw [repairedAs, List.length_map], rfl, fun other hother haccepts => ?_⟩
    have hmem := mem_places_iff.mpr hother
    rw [hplaces, List.mem_append, List.mem_cons] at hmem
    rcases hmem with hbefore | rfl | hafter
    · exact absurd haccepts (rejected _ (List.mem_map_of_mem hbefore))
    · exact le_rfl
    · exact le_of_lt (hsorted.2.1.1 other hafter)

/-- An accepted text of the length of a text that is not accepted is near it, and differs from it. -/
theorem near_of_accepts {other : String} (hwrong : ¬accepts checksum text) (haccepts : accepts checksum other)
    (hlength : other.length = text.length) :
    Near text (differing text other).length other ∧ differing text other ≠ [] := by
  refine ⟨⟨hlength, mem_alphabet_of_accepts haccepts, Nat.le_refl _⟩, fun hsame => hwrong ?_⟩
  rwa [← eq_of_differing_eq_nil hlength hsame]

/-- What is found for a text that is not accepted is tried at the place of its differences: it comes at no earlier place, and at a
later one it would have been accepted before. -/
theorem Ends.exists_placeOf (h : Ends text checksum limits (.ok found)) (hwrong : ¬accepts checksum text) :
    ∃ before after : List Place, places text.length limits.maxChanges = before ++ placeOf text found.fixed :: after ∧
      found.tried = before.length + 1 ∧
      ∀ other : Place, other.Within text.length limits.maxChanges → accepts checksum (other.candidate text) →
        (placeOf text found.fixed).key ≤ other.key := by
  obtain ⟨before, after, place, hplaces, htried, hcandidate, hleast⟩ := h.exists_place
  obtain ⟨haccepts, hlength, -⟩ := h.found_spec
  obtain ⟨hnear, hdiffers⟩ := near_of_accepts hwrong haccepts hlength
  have hwithin : place.Within text.length limits.maxChanges :=
    mem_places_iff.mp (hplaces ▸ List.mem_append_right _ List.mem_cons_self)
  have hfewest : (differing text found.fixed).length ≤ place.positions.length :=
    hcandidate ▸ (differing_sublist hwithin).length_le
  obtain ⟨hfirst, hfixed⟩ := placeOf_within ⟨hnear.length, hnear.symbols, hfewest.trans hwithin.most⟩ hdiffers
  have hle : (placeOf text found.fixed).key ≤ place.key := hcandidate ▸ key_placeOf_le hwithin
  have hge : place.key ≤ (placeOf text found.fixed).key := hleast _ hfirst (hfixed.symm ▸ haccepts)
  have hsame : placeOf text found.fixed = place := Place.key_injective (le_antisymm hle hge)
  rw [hsame]
  exact ⟨before, after, hplaces, htried, hleast⟩

/-- The place of what is found comes before that of every other accepted text. -/
theorem Ends.placeOf_le (h : Ends text checksum limits (.ok found)) (hwrong : ¬accepts checksum text) {other : String}
    (haccepts : accepts checksum other) (hlength : other.length = text.length) :
    (placeOf text found.fixed).key ≤ (placeOf text other).key := by
  obtain ⟨before, after, hplaces, -, hleast⟩ := h.exists_placeOf hwrong
  obtain ⟨hnear, hdiffers⟩ := near_of_accepts hwrong haccepts hlength
  by_cases hmost : (differing text other).length ≤ limits.maxChanges
  · obtain ⟨hother, hcandidate⟩ := placeOf_within ⟨hnear.length, hnear.symbols, hmost⟩ hdiffers
    exact hleast _ hother (hcandidate.symm ▸ haccepts)
  · -- A text with more differences than may be changed is not searched, and would come later.
    have hwithin : (placeOf text found.fixed).Within text.length limits.maxChanges :=
      mem_places_iff.mp (hplaces ▸ List.mem_append_right _ List.mem_cons_self)
    rw [Place.key_le_iff]
    exact Or.inl (Nat.lt_of_le_of_lt hwithin.most (Nat.lt_of_not_le hmost))

end Found

/-- For a text that is not accepted, a search without a deadline that finds something finds an accepted text with the fewest
differences, at least one. Among the accepted texts with so many differences it is the one whose list of differing positions
is lexicographically least, and among those with the same positions the one whose digits there write the least number. -/
theorem repair_fewest_changes {text : String} {checksum : Checksum} {limits : Limits} (hdeadline : limits.deadline = none)
    (hwrong : ¬accepts checksum text) {found : Repaired} (hfound : repair text checksum limits = .ok found) :
    1 ≤ found.changes ∧ found.changes = (differing text found.fixed).length ∧
      found.fixed.length = text.length ∧ (∀ c ∈ found.fixed.toList, c ∈ alphabet) ∧ accepts checksum found.fixed ∧
      ∀ other : String, other.length = text.length → accepts checksum other →
        found.changes ≤ (differing text other).length ∧
        ((differing text other).length = found.changes →
          differing text found.fixed ≤ differing text other ∧
          (differing text other = differing text found.fixed → other ≠ found.fixed →
            numeralOn found.fixed (differing text found.fixed) < numeralOn other (differing text found.fixed))) := by
  rw [repair_eq_iff hdeadline] at hfound
  obtain ⟨haccepts, hlength, hchanges⟩ := hfound.found_spec
  obtain ⟨hnear, hdiffers⟩ := near_of_accepts hwrong haccepts hlength
  refine ⟨?_, hchanges, hlength, hnear.symbols, haccepts, fun other hother haccepted => ?_⟩
  · rw [hchanges]
    exact List.length_pos_iff.mpr hdiffers
  · have hle := hfound.placeOf_le hwrong haccepted hother
    rw [Place.key_le_iff] at hle
    dsimp only [placeOf] at hle
    rw [hchanges]
    refine ⟨?_, fun hsame => ⟨?_, fun hpositions hne => ?_⟩⟩
    · rcases hle with hfewer | ⟨hsame, -⟩
      · exact Nat.le_of_lt hfewer
      · exact Nat.le_of_eq hsame
    · rcases hle with hfewer | ⟨-, hearlier | ⟨hpositions, -⟩⟩
      · exact absurd hfewer (Nat.not_lt.mpr (Nat.le_of_eq hsame))
      · exact le_of_lt hearlier
      · exact le_of_eq hpositions
    · rw [hpositions] at hle
      have hnumber : numeralOn found.fixed (differing text found.fixed) ≤ numeralOn other (differing text found.fixed) := by
        rcases hle with hfewer | ⟨-, hearlier | ⟨-, hnumber⟩⟩
        · exact absurd hfewer (Nat.lt_irrefl _)
        · exact absurd hearlier (lt_irrefl _)
        · exact hnumber
      refine lt_of_le_of_ne hnumber fun hequal => hne ?_
      obtain ⟨hother', hdiffers'⟩ := near_of_accepts hwrong haccepted hother
      apply eq_of_placeOf_eq hother' hnear hdiffers'
      rw [placeOf, placeOf, hpositions, hequal]

/-- Under the digest of zeros, no accepted text of four characters is nearer to one with a wrong last character than the one
that is found. -/
theorem repair_fewest_changes_wrong_last_character :
    ¬accepts zeroDigest "111l" ∧
      repair "111l" zeroDigest { maxChanges := 1 } = .ok (repairedAs "111l" "1111" [] 175) ∧
      1 ≤ (repairedAs "111l" "1111" [] 175).changes ∧
      ∀ other : String, other.length = "111l".length → accepts zeroDigest other →
        (repairedAs "111l" "1111" [] 175).changes ≤ (differing "111l" other).length := by
  have hwrong : ¬accepts zeroDigest "111l" := by
    intro haccepts
    exact absurd (mem_alphabet_of_accepts haccepts 'l' (by decide +kernel)) (by decide +kernel)
  have hfound := ends_wrong_last_character.repair_eq rfl
  obtain ⟨hpos, -, -, -, -, hleast⟩ := repair_fewest_changes rfl hwrong hfound
  exact ⟨hwrong, hfound, hpos, fun other hlength haccepts => (hleast other hlength haccepts).1⟩

end KeyText.Repair
