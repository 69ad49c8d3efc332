import KeyText.Proofs.Repair.Characters
import KeyText.Proofs.Repair.Run

/-!
# The list of candidates

The texts that a search tries, as texts and without the search: by levels of one change, two changes and so on, in each level
the choices of positions in lexicographic order, and on each choice the symbols in the numeric order of their digits. The run
of a search tries these texts, one byte for each of their characters (`candidatesOf_events_eq`). The texts on a choice of
positions are those that hold symbols there and agree with the given text elsewhere (`mem_candidatesOn_iff`).
-/

namespace KeyText.Repair

open Base58 (alphabet)

/-- The texts with symbols written on given positions of a text, in the numeric order of their digits. -/
def candidatesOn (text : String) (positions : List Nat) : List String :=
  (List.range (58 ^ positions.length)).map fun k =>
    String.ofList (overwrite letter text.toList (positions.zip (Odometer.reading positions.length k)))

/-- The texts that a search of a text with so many changes at most tries, in order. -/
def candidates (text : String) (maxChanges : Nat) : List String :=
  (List.range' 1 (min maxChanges text.length)).flatMap fun changes =>
    (Positions.choices (List.range text.length) changes).flatMap (candidatesOn text)

/-- There are as many candidates on a choice of positions as ways to write symbols there. -/
theorem length_candidatesOn (text : String) (positions : List Nat) :
    (candidatesOn text positions).length = 58 ^ positions.length := by
  rw [candidatesOn, List.length_map, List.length_range]

/-! ## Candidates as bytes -/

/-- The bytes of a text with letters written over it are the bytes of the text with the symbols written over them. -/
theorem characters_overwrite {text : String} {changes : List (Nat × UInt8)} (h : ∀ change ∈ changes, change.2.toNat < 58) :
    characters (String.ofList (overwrite letter text.toList changes)) = overwrite symbolByte (characters text) changes := by
  rw [characters_eq_map, characters_eq_map, String.toList_ofList, map_overwrite]
  apply overwrite_congr
  intro change hchange
  exact (byteOf_letter (h change hchange)).2

/-- On a choice of positions, a search tries the bytes of the texts that have symbols there. -/
theorem candidatesOn_eq_map (text : String) (checksum : Checksum) (limits : Limits) (positions : List Nat) :
    (problemOf text checksum limits).candidatesOn positions = (candidatesOn text positions).map characters := by
  rw [Problem.candidatesOn, candidatesOn, List.map_map]
  apply List.map_congr_left
  intro k hk
  rw [Function.comp_apply, characters_overwrite]
  · rfl
  · rintro ⟨p, d⟩ hchange
    exact Odometer.lt_of_mem_reading (List.mem_range.mp hk) (List.of_mem_zip hchange).2

/-- A search tries the bytes of its candidates. -/
theorem candidatesOf_events_eq (text : String) (checksum : Checksum) (limits : Limits) :
    candidatesOf (problemOf text checksum limits).events = (candidates text limits.maxChanges).map characters := by
  have hlength : (problemOf text checksum limits).characters.length = text.length := length_characters text
  rw [candidatesOf_events, candidates, hlength, List.map_flatMap]
  congr 1
  funext changes
  rw [List.map_flatMap]
  congr 1
  funext positions
  exact candidatesOn_eq_map text checksum limits positions

/-! ## Which texts are candidates -/

/-- Symbols on some positions of a text are the letters for digits below 58. -/
theorem exists_digits {fixed : List Char} {positions : List Nat} (h : ∀ p ∈ positions, ∃ c ∈ alphabet, fixed[p]? = some c) :
    ∃ digits : List UInt8, digits.length = positions.length ∧ (∀ d ∈ digits, d.toNat < 58) ∧
      ∀ change ∈ positions.zip digits, fixed[change.1]? = some (letter change.2) := by
  induction positions with
  | nil => exact ⟨[], rfl, fun _ hd => absurd hd List.not_mem_nil, fun _ hc => absurd hc List.not_mem_nil⟩
  | cons p positions ih =>
    obtain ⟨digits, hlength, hlt, hletters⟩ := ih fun q hq => h q (List.mem_cons_of_mem p hq)
    obtain ⟨c, hc, hget⟩ := h p List.mem_cons_self
    obtain ⟨d, hd, rfl⟩ := exists_letter_eq hc
    refine ⟨d :: digits, ?_, ?_, ?_⟩
    · rw [List.length_cons, List.length_cons, hlength]
    · intro e he
      rcases List.mem_cons.mp he with rfl | he
      · exact hd
      · exact hlt e he
    · intro change hchange
      rw [List.zip_cons_cons] at hchange
      rcases List.mem_cons.mp hchange with rfl | hchange
      · exact hget
      · exact hletters change hchange

/-- The candidates on a choice of positions are the texts of the same length that hold symbols there and agree with the given
text elsewhere. Whether a symbol there differs from the character of the text does not matter. -/
theorem mem_candidatesOn_iff {text fixed : String} {positions : List Nat} (honce : positions.Nodup)
    (hpositions : ∀ p ∈ positions, p < text.length) :
    fixed ∈ candidatesOn text positions ↔ fixed.length = text.length ∧
      (∀ i, i ∉ positions → fixed.toList[i]? = text.toList[i]?) ∧
      ∀ p ∈ positions, ∃ c ∈ alphabet, fixed.toList[p]? = some c := by
  constructor
  · intro h
    obtain ⟨k, hk, rfl⟩ := List.mem_map.mp h
    have hkeys : (positions.zip (Odometer.reading positions.length k)).map Prod.fst = positions :=
      List.map_fst_zip (Nat.le_of_eq (Odometer.length_reading _ _).symm)
    rw [String.toList_ofList]
    refine ⟨?_, fun i hi => ?_, fun p hp => ?_⟩
    · rw [String.length_ofList, length_overwrite, String.length_toList]
    · apply getElem?_overwrite_of_not_mem
      rwa [hkeys]
    · obtain ⟨⟨p, d⟩, hchange, rfl⟩ := List.mem_map.mp (hkeys.symm ▸ hp)
      have hd := Odometer.lt_of_mem_reading (List.mem_range.mp hk) (List.of_mem_zip hchange).2
      refine ⟨letter d, (byteOf_letter hd).1, getElem?_overwrite_of_mem letter ?_ hchange ?_⟩
      · rwa [hkeys]
      · rw [String.length_toList]
        exact hpositions p hp
  · rintro ⟨hlength, hagree, hsymbols⟩
    obtain ⟨digits, hdigits, hlt, hletters⟩ := exists_digits hsymbols
    obtain ⟨k, hk, hreading⟩ := Odometer.exists_reading_eq hlt
    rw [hdigits] at hk hreading
    have hkeys : (positions.zip digits).map Prod.fst = positions := List.map_fst_zip (Nat.le_of_eq hdigits.symm)
    refine List.mem_map.mpr ⟨k, List.mem_range.mpr hk, ?_⟩
    -- Writing the symbols over the text is writing them over the candidate, where they stand already.
    have hother : overwrite letter text.toList (positions.zip digits) =
        overwrite letter fixed.toList (positions.zip digits) := by
      apply overwrite_eq_of_agree
      · rw [String.length_toList, String.length_toList, hlength]
      · intro i hi
        rw [hkeys] at hi
        exact (hagree i hi).symm
    rw [hreading, hother, overwrite_self letter hletters, String.ofList_toList]

end KeyText.Repair
