import KeyText.Proofs.Repair.Ending
import Mathlib.Data.List.Lex
import Mathlib.Data.Prod.Lex

/-!
# Places in a search

A candidate comes at places: a choice of positions, and the number whose base-58 digits are the symbols there. The places of a
search go up by the number of positions, then by the positions in lexicographic order, and then by the number
(`pairwise_key_places`). One text may come at many places. The first is the choice of just those positions at which it differs
from the given text (`key_placeOf_le`), where it differs at all; so the places tell texts apart, and order them.
-/

namespace KeyText.Repair

/-- A choice of positions, and the number whose base-58 digits are written there. -/
structure Place where
  positions : List Nat
  number : Nat

/-- The text with the digits of a place written over it. -/
def Place.candidate (text : String) (place : Place) : String :=
  String.ofList (overwrite letter text.toList (place.positions.zip (Odometer.reading place.positions.length place.number)))

theorem Place.toList_candidate (text : String) (place : Place) :
    (place.candidate text).toList =
      overwrite letter text.toList (place.positions.zip (Odometer.reading place.positions.length place.number)) :=
  String.toList_ofList

/-- What places are ordered by: fewer positions come first, then earlier ones, then smaller numbers. -/
def Place.key (place : Place) : ℕ ×ₗ List ℕ ×ₗ ℕ :=
  toLex (place.positions.length, toLex (place.positions, place.number))

/-- The places of a search of a text of some length, with at most so many changes. -/
structure Place.Within (length maxChanges : Nat) (place : Place) : Prop where
  ascending : place.positions.Pairwise (· < ·)
  inside : ∀ p ∈ place.positions, p < length
  some_position : 0 < place.positions.length
  most : place.positions.length ≤ maxChanges
  digits : place.number < 58 ^ place.positions.length

/-- The places of a search, in order. -/
def places (length maxChanges : Nat) : List Place :=
  (List.range' 1 (min maxChanges length)).flatMap fun changes =>
    (Positions.choices (List.range length) changes).flatMap fun positions =>
      (List.range (58 ^ positions.length)).map (Place.mk positions)

/-! ## The order of the places -/

/-- The candidates of a search are those of its places. -/
theorem candidates_eq_map (text : String) (maxChanges : Nat) :
    candidates text maxChanges = (places text.length maxChanges).map (Place.candidate text) := by
  simp only [candidates, places, List.map_flatMap, List.map_map]
  rfl

/-- A search has all places with at least one position and at most as many as may be changed. -/
theorem mem_places_iff {length maxChanges : Nat} {place : Place} :
    place ∈ places length maxChanges ↔ place.Within length maxChanges := by
  simp only [places, List.mem_flatMap, List.mem_map, List.mem_range, List.mem_range'_1, Positions.mem_choices_range_iff]
  constructor
  · rintro ⟨changes, ⟨hpos, hmost⟩, positions, ⟨hasc, hlt, rfl⟩, number, hnumber, rfl⟩
    exact ⟨hasc, hlt, hpos, by dsimp only; omega, hnumber⟩
  · intro h
    have hroom : place.positions.length ≤ length := by
      rw [← List.length_range (n := length)]
      exact (List.subperm_of_subset (h.ascending.imp Nat.ne_of_lt) fun p hp => List.mem_range.mpr (h.inside p hp)).length_le
    have hmost := h.most
    exact ⟨_, ⟨h.some_position, by omega⟩, _, ⟨h.ascending, h.inside, rfl⟩, _, h.digits, rfl⟩

/-- A place comes before another that has more positions, later ones, or a greater number on the same. -/
theorem Place.key_lt_iff {a b : Place} :
    a.key < b.key ↔ a.positions.length < b.positions.length ∨ a.positions.length = b.positions.length ∧
      (a.positions < b.positions ∨ a.positions = b.positions ∧ a.number < b.number) := by
  rw [key, key, Prod.Lex.toLex_lt_toLex, Prod.Lex.toLex_lt_toLex]

theorem Place.key_le_iff {a b : Place} :
    a.key ≤ b.key ↔ a.positions.length < b.positions.length ∨ a.positions.length = b.positions.length ∧
      (a.positions < b.positions ∨ a.positions = b.positions ∧ a.number ≤ b.number) := by
  rw [key, key, Prod.Lex.toLex_le_toLex, Prod.Lex.toLex_le_toLex]

theorem Place.key_injective : Function.Injective Place.key := by
  rintro ⟨positions, number⟩ ⟨positions', number'⟩ h
  obtain ⟨-, hpair⟩ := Prod.mk.inj (toLex.injective h)
  obtain ⟨rfl, rfl⟩ := Prod.mk.inj (toLex.injective hpair)
  rfl

/-- The places of a search are in ascending order. -/
theorem pairwise_key_places (length maxChanges : Nat) :
    (places length maxChanges).Pairwise fun a b => a.key < b.key := by
  have hcount : ∀ {changes positions}, positions ∈ Positions.choices (List.range length) changes →
      positions.length = changes := fun h => (Positions.mem_choices_iff.mp h).2
  simp only [places, List.pairwise_flatMap, List.pairwise_map]
  refine ⟨fun changes _ => ⟨fun positions _ => ?_, ?_⟩, ?_⟩
  · -- On one choice of positions the numbers go up.
    refine List.pairwise_lt_range.imp fun hlt => ?_
    exact Place.key_lt_iff.mpr (Or.inr ⟨rfl, Or.inr ⟨rfl, hlt⟩⟩)
  · -- On one level the choices go up.
    refine (Positions.pairwise_lt_choices List.pairwise_lt_range changes).imp_of_mem fun ha hb hlt => ?_
    intro x hx y hy
    obtain ⟨_, -, rfl⟩ := List.mem_map.mp hx
    obtain ⟨_, -, rfl⟩ := List.mem_map.mp hy
    exact Place.key_lt_iff.mpr (Or.inr ⟨(hcount ha).trans (hcount hb).symm, Or.inl hlt⟩)
  · -- The levels go up.
    refine (List.pairwise_lt_range' 1).imp fun hlt => ?_
    intro x hx y hy
    obtain ⟨_, ha, hx⟩ := List.mem_flatMap.mp hx
    obtain ⟨_, hb, hy⟩ := List.mem_flatMap.mp hy
    obtain ⟨_, -, rfl⟩ := List.mem_map.mp hx
    obtain ⟨_, -, rfl⟩ := List.mem_map.mp hy
    rw [Place.key_lt_iff, hcount ha, hcount hb]
    exact Or.inl hlt

/-! ## The place of a text -/

/-- The number whose base-58 digits are the characters of a text on some positions, the first of them the leading one. -/
def numeralOn (text : String) (positions : List Nat) : Nat :=
  Nat.ofDigits 58 (positions.map fun p => digitOf (text.toList.getD p '1')).reverse

/-- The place of the differences between a text and another. -/
def placeOf (text fixed : String) : Place :=
  ⟨differing text fixed, numeralOn fixed (differing text fixed)⟩

/-- On its positions the candidate of a place has the digits of its number. -/
theorem numeralOn_candidate {text : String} {maxChanges : Nat} {place : Place} (h : place.Within text.length maxChanges) :
    numeralOn (place.candidate text) place.positions = place.number := by
  let reading := Odometer.reading place.positions.length place.number
  have hlength : reading.length = place.positions.length := Odometer.length_reading _ _
  have hkeys : (place.positions.zip reading).map Prod.fst = place.positions := List.map_fst_zip (Nat.le_of_eq hlength.symm)
  have hvalues : (place.positions.zip reading).map Prod.snd = reading := List.map_snd_zip (Nat.le_of_eq hlength)
  have hletters : ∀ change ∈ place.positions.zip reading,
      digitOf ((place.candidate text).toList.getD change.1 '1') = change.2.toNat := by
    rintro ⟨p, d⟩ hchange
    obtain ⟨hp, hd⟩ := List.of_mem_zip hchange
    have honce : ((place.positions.zip reading).map Prod.fst).Nodup := hkeys.symm ▸ h.ascending.imp Nat.ne_of_lt
    have hinside : p < text.toList.length := by
      rw [String.length_toList]
      exact h.inside p hp
    rw [List.getD_eq_getElem?_getD, Place.toList_candidate, getElem?_overwrite_of_mem letter honce hchange hinside,
      Option.getD_some, digitOf_letter (Odometer.lt_of_mem_reading h.digits hd)]
  have hdigits : (place.positions.map fun p => digitOf ((place.candidate text).toList.getD p '1')) =
      reading.map UInt8.toNat := by
    conv_lhs => rw [← hkeys, List.map_map]
    conv_rhs => rw [← hvalues, List.map_map]
    apply List.map_congr_left
    intro change hchange
    rw [Function.comp_apply, Function.comp_apply]
    exact hletters change hchange
  rw [numeralOn, hdigits, Odometer.ofDigits_reading h.digits]

/-- A text differs from the candidate of a place on positions of the place alone. -/
theorem differing_sublist {text : String} {maxChanges : Nat} {place : Place} (h : place.Within text.length maxChanges) :
    (differing text (place.candidate text)).Sublist place.positions := by
  have hcandidate : place.candidate text ∈ candidatesOn text place.positions :=
    List.mem_map.mpr ⟨place.number, List.mem_range.mpr h.digits, rfl⟩
  obtain ⟨-, hagree, -⟩ := (mem_candidatesOn_iff (h.ascending.imp Nat.ne_of_lt) h.inside).mp hcandidate
  have hasc := pairwise_differing text (place.candidate text)
  apply List.sublist_of_subperm_of_pairwise (r := (· ≤ ·))
  · apply List.subperm_of_subset (hasc.imp Nat.ne_of_lt)
    intro i hi
    by_contra hout
    exact (mem_differing_iff.mp hi).2 (hagree i hout).symm
  · exact hasc.imp Nat.le_of_lt
  · exact h.ascending.imp Nat.le_of_lt

/-- The place of the differences is the first of the places at which a text comes. -/
theorem key_placeOf_le {text : String} {maxChanges : Nat} {place : Place} (h : place.Within text.length maxChanges) :
    (placeOf text (place.candidate text)).key ≤ place.key := by
  have hsub := differing_sublist h
  rw [Place.key_le_iff]
  dsimp only [placeOf]
  rcases Nat.lt_or_eq_of_le hsub.length_le with hfewer | hsame
  · exact Or.inl hfewer
  · rw [hsub.eq_of_length hsame, numeralOn_candidate h]
    exact Or.inr ⟨rfl, Or.inr ⟨rfl, Nat.le_refl _⟩⟩

/-- A text over the alphabet that differs from the given one comes at the place of its differences, if a search has so many
changes. -/
theorem placeOf_within {text fixed : String} {maxChanges : Nat} (h : Near text maxChanges fixed)
    (hdiffers : differing text fixed ≠ []) :
    (placeOf text fixed).Within text.length maxChanges ∧ (placeOf text fixed).candidate text = fixed := by
  have hasc := pairwise_differing text fixed
  have hinside : ∀ p ∈ differing text fixed, p < text.length := fun p hp => (mem_differing_iff.mp hp).1
  obtain ⟨number, hnumber, hfixed⟩ :=
    List.mem_map.mp (h.mem_candidatesOn (hasc.imp Nat.ne_of_lt) hinside fun _ hp => hp)
  have hwithin : (Place.mk (differing text fixed) number).Within text.length maxChanges :=
    ⟨hasc, hinside, List.length_pos_iff.mpr hdiffers, h.distance, List.mem_range.mp hnumber⟩
  have hcandidate : (Place.mk (differing text fixed) number).candidate text = fixed := hfixed
  have hplace : placeOf text fixed = ⟨differing text fixed, number⟩ := by
    have hnumeral := numeralOn_candidate hwithin
    rw [hcandidate] at hnumeral
    rw [placeOf, hnumeral]
  rw [hplace]
  exact ⟨hwithin, hcandidate⟩

/-- Texts over the alphabet that come at the same place are one text. -/
theorem eq_of_placeOf_eq {text a b : String} {maxChanges maxChanges' : Nat} (ha : Near text maxChanges a)
    (hb : Near text maxChanges' b) (hdiffers : differing text a ≠ []) (h : placeOf text a = placeOf text b) : a = b := by
  have hpositions : differing text a = differing text b := congrArg Place.positions h
  rw [← (placeOf_within ha hdiffers).2, h, (placeOf_within hb (hpositions ▸ hdiffers)).2]

end KeyText.Repair
