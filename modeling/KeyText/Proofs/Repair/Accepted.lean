import KeyText.Proofs.Repair.Ending

/-!
# Repairing a text that is accepted already

A search does not try the text as it stands. It meets the text where the symbols on the first position come to its own first
character, and takes one with a smaller symbol there if that is accepted before. So an accepted text is answered unchanged
unless it is accepted with a smaller first symbol too, and is then changed in its first character alone (`repair_of_accepts`).
Under a digest that does not depend on the payload this happens to long texts: on the first of 33 positions a symbol counts
for a multiple of 2^32, and the four bytes of the checksum are the same with all of them (`repair_of_accepts_changes`).
-/

namespace KeyText.Repair

/-- A text with the symbol for a digit in place of its first character. -/
def withFirst (text : String) (digit : Nat) : String :=
  String.ofList (text.toList.set 0 (letter (UInt8.ofNat digit)))

/-- The digit value of the first character of a text. -/
def firstDigit (text : String) : Nat :=
  digitOf (text.toList.headD '1')

/-! ## The first candidates -/

/-- A search begins with all symbols in place of the first character, in the order of their digits. -/
theorem exists_candidates_eq {text : String} {maxChanges : Nat} (hmost : 0 < maxChanges) (htext : 0 < text.length) :
    ∃ rest, candidates text maxChanges = (List.range 58).map (withFirst text) ++ rest := by
  obtain ⟨levels, hlevels⟩ : ∃ levels, min maxChanges text.length = levels + 1 :=
    ⟨min maxChanges text.length - 1, by omega⟩
  obtain ⟨more, hmore⟩ : ∃ more, text.length = more + 1 := ⟨text.length - 1, by omega⟩
  have hfirst : candidatesOn text [0] = (List.range 58).map (withFirst text) := by
    apply List.map_congr_left
    intro k _
    have hreading : Odometer.reading 1 k = [UInt8.ofNat k] := by
      rw [Odometer.reading, Nat.pow_zero, Nat.div_one, Odometer.reading]
    rw [List.length_singleton, hreading]
    rfl
  rw [candidates, hlevels, List.range'_succ, List.flatMap_cons, hmore, List.range_succ_eq_map, Positions.choices,
    Positions.choices, List.map_cons, List.map_nil, List.cons_append, List.nil_append, List.flatMap_cons, hfirst,
    List.append_assoc]
  exact ⟨_, rfl⟩

/-- An accepted text has a symbol for its first character, and is the text with that symbol there. -/
theorem withFirst_firstDigit {text : String} {checksum : Checksum} (h : accepts checksum text) :
    firstDigit text < 58 ∧ withFirst text (firstDigit text) = text := by
  have hsymbols := mem_alphabet_of_accepts h
  have hroom := size_le_length_of_accepts h
  rw [← String.length_toList] at hroom
  cases htext : text.toList with
  | nil =>
    rw [htext] at hroom
    exact absurd hroom (by decide)
  | cons c cs =>
    rw [htext] at hsymbols
    obtain ⟨hlt, hletter⟩ := letter_digitOf (hsymbols c List.mem_cons_self)
    rw [withFirst, firstDigit, htext, List.headD_cons, List.set_cons_zero, hletter, ← htext, String.ofList_toList]
    exact ⟨hlt, rfl⟩

/-- The first digit of a text with the symbol for a digit in front is that digit. -/
theorem firstDigit_withFirst {text : String} {digit : Nat} (htext : 0 < text.length) (hdigit : digit < 58) :
    firstDigit (withFirst text digit) = digit := by
  have hval : (UInt8.ofNat digit).toNat = digit := Base58.toNat_ofNat_digit hdigit
  rw [← String.length_toList] at htext
  obtain ⟨c, cs, htext⟩ := List.exists_cons_of_length_pos htext
  rw [firstDigit, withFirst, String.toList_ofList, htext, List.set_cons_zero, List.headD_cons,
    digitOf_letter (by rwa [hval]), hval]

/-- A text differs from one with another first symbol in the first character alone. -/
theorem differing_withFirst {text : String} {digit : Nat} (h : withFirst text digit ≠ text) :
    differing text (withFirst text digit) = [0] := by
  have hlength : (withFirst text digit).length = text.length := by
    rw [withFirst, String.length_ofList, List.length_set, String.length_toList]
  have hagree : ∀ i, i ∉ [0] → (withFirst text digit).toList[i]? = text.toList[i]? := by
    intro i hi
    rw [withFirst, String.toList_ofList, List.getElem?_set_ne fun hzero => hi (List.mem_singleton.mpr hzero.symm)]
  have hmost := length_differing_le hagree
  have hsome : differing text (withFirst text digit) ≠ [] := fun hnone => h (eq_of_differing_eq_nil hlength hnone)
  obtain ⟨p, hp⟩ := List.length_eq_one_iff.mp (Nat.le_antisymm hmost (List.length_pos_iff.mpr hsome))
  rw [hp]
  by_contra hne
  have hmem : p ∈ differing text (withFirst text digit) := hp ▸ List.mem_singleton_self p
  exact (mem_differing_iff.mp hmem).2 (hagree p fun hzero => hne (by rw [List.mem_singleton.mp hzero])).symm

/-! ## Marks -/

/-- A text has no differences from itself, and spaces for marks. -/
theorem marks_self (text : String) :
    differing text text = [] ∧ marks text text = String.ofList (List.replicate text.length ' ') := by
  have hnone : differing text text = [] := by
    rw [differing, List.filter_eq_nil_iff]
    intro i _
    simp
  rw [marks, hnone]
  simp only [List.not_mem_nil, if_false, List.map_const', List.length_range]
  exact ⟨trivial, trivial⟩

/-- A single difference at the first character is a mark with spaces behind it. -/
theorem marks_of_differing {before after : String} (h : differing before after = [0]) :
    marks before after = String.ofList (marker :: List.replicate (before.length - 1) ' ') := by
  have hpos : 0 < before.length := (mem_differing_iff.mp (h ▸ List.mem_singleton_self 0)).1
  obtain ⟨more, hmore⟩ : ∃ more, before.length = more + 1 := ⟨before.length - 1, by omega⟩
  rw [marks, h, hmore, List.range_succ_eq_map, List.map_cons, List.map_map, if_pos (List.mem_singleton_self 0),
    Nat.add_sub_cancel]
  congr 2
  rw [List.eq_replicate_iff, List.length_map, List.length_range]
  refine ⟨rfl, fun c hc => ?_⟩
  obtain ⟨i, -, rfl⟩ := List.mem_map.mp hc
  rw [Function.comp_apply, if_neg]
  rw [List.mem_singleton]
  exact Nat.succ_ne_zero i

/-! ## The answer -/

/-- A search finds the first of the texts with a symbol in place of the first character that are accepted. -/
theorem ends_withFirst {text : String} {checksum : Checksum} {maxChanges digit : Nat} (hmost : 0 < maxChanges)
    (htext : 0 < text.length) (hdigit : digit < 58) (haccepts : accepts checksum (withFirst text digit))
    (hleast : ∀ smaller < digit, ¬accepts checksum (withFirst text smaller)) :
    ∃ payload, Ends text checksum { maxChanges }
      (.ok (repairedAs text (withFirst text digit) payload (digit + 1))) := by
  obtain ⟨payload, hdecode⟩ := accepts_iff.mp haccepts
  obtain ⟨rest, hrest⟩ := exists_candidates_eq hmost htext
  obtain ⟨behind, hsymbols⟩ := exists_range_eq hdigit
  obtain ⟨before, hbefore⟩ : ∃ before, before = (List.range digit).map (withFirst text) := ⟨_, rfl⟩
  have hsplit : candidates text maxChanges =
      before ++ withFirst text digit :: (behind.map (withFirst text) ++ rest) := by
    rw [hrest, hsymbols, List.map_append, List.map_cons, List.append_assoc, List.cons_append, hbefore]
  have hrejected : ∀ earlier ∈ before, ¬accepts checksum earlier := by
    intro earlier hearlier
    rw [hbefore] at hearlier
    obtain ⟨smaller, hsmaller, rfl⟩ := List.mem_map.mp hearlier
    exact hleast smaller (List.mem_range.mp hsmaller)
  have hlength : before.length = digit := by rw [hbefore, List.length_map, List.length_range]
  have hends : Ends text checksum { maxChanges }
      (.ok (repairedAs text (withFirst text digit) payload (before.length + 1))) :=
    .found hsplit (fun most hbudget => by cases hbudget) hrejected hdecode
  rw [hlength] at hends
  exact ⟨payload, hends⟩

/-- An accepted text is answered unchanged by a search without a budget or a deadline, unless it is accepted with a smaller
symbol in place of its first character. It is then answered with the least such symbol there, and nothing else changed. -/
theorem repair_of_accepts (text : String) (checksum : Checksum) (maxChanges : Nat) (hmost : 0 < maxChanges)
    (haccepts : accepts checksum text) :
    ∃ found, repair text checksum { maxChanges } = .ok found ∧
      ((∀ digit < firstDigit text, ¬accepts checksum (withFirst text digit)) →
        found.fixed = text ∧ found.changes = 0 ∧ found.diff = String.ofList (List.replicate text.length ' ')) ∧
      ∀ digit < firstDigit text, accepts checksum (withFirst text digit) →
        (∀ smaller < digit, ¬accepts checksum (withFirst text smaller)) →
        found.fixed = withFirst text digit ∧ found.changes = 1 ∧
          found.diff = String.ofList (marker :: List.replicate (text.length - 1) ' ') := by
  obtain ⟨hown, hself⟩ := withFirst_firstDigit haccepts
  have htext : 0 < text.length := Nat.lt_of_lt_of_le (by decide) (size_le_length_of_accepts haccepts)
  have hself_accepts : accepts checksum (withFirst text (firstDigit text)) := by
    rw [hself]
    exact haccepts
  have hsome : ∃ digit, accepts checksum (withFirst text digit) := ⟨firstDigit text, hself_accepts⟩
  have hfirst := Nat.find_spec hsome
  have hleast : ∀ smaller < Nat.find hsome, ¬accepts checksum (withFirst text smaller) := fun _ => Nat.find_min hsome
  have hle : Nat.find hsome ≤ firstDigit text := Nat.find_min' hsome hself_accepts
  obtain ⟨payload, hends⟩ := ends_withFirst hmost htext (Nat.lt_of_le_of_lt hle hown) hfirst hleast
  refine ⟨_, hends.repair_eq rfl, fun hnone => ?_, fun digit hdigit hdigit_accepts hsmaller => ?_⟩
  · have hfind : Nat.find hsome = firstDigit text :=
      Nat.le_antisymm hle (Nat.le_of_not_lt fun hlt => hnone _ hlt hfirst)
    obtain ⟨hdiffering, hmarks⟩ := marks_self text
    rw [hfind, hself, repairedAs, hdiffering, hmarks]
    exact ⟨rfl, rfl, rfl⟩
  · have hfind : Nat.find hsome = digit :=
      Nat.le_antisymm (Nat.find_min' hsome hdigit_accepts) (Nat.le_of_not_lt fun hlt => hsmaller _ hlt hfirst)
    have hchanged : withFirst text digit ≠ text := by
      intro hsame
      have hdigit' := firstDigit_withFirst htext (Nat.lt_trans hdigit hown)
      rw [hsame] at hdigit'
      exact absurd hdigit' (Nat.ne_of_gt hdigit)
    have hdiffering := differing_withFirst hchanged
    rw [hfind, repairedAs, hdiffering, marks_of_differing hdiffering]
    exact ⟨rfl, rfl, rfl⟩

/-- Four zeros are answered unchanged. They begin with the least symbol, so there is no smaller one to be accepted before. -/
theorem repair_of_accepts_four_zeros :
    0 < 1 ∧ accepts zeroDigest "1111" ∧ ∃ found, repair "1111" zeroDigest { maxChanges := 1 } = .ok found ∧
      found.fixed = "1111" ∧ found.changes = 0 ∧ found.diff = "    " := by
  have hmost : 0 < 1 := by decide
  have haccepts : accepts zeroDigest "1111" := accepts_iff.mpr ⟨[], decodeChecked_four_zeros⟩
  have hleast : firstDigit "1111" = 0 := by decide +kernel
  obtain ⟨found, hfound, hunchanged, -⟩ := repair_of_accepts "1111" zeroDigest 1 hmost haccepts
  obtain ⟨hfixed, hchanges, hdiff⟩ := hunchanged fun digit hdigit => absurd hdigit (by rw [hleast]; exact Nat.not_lt_zero _)
  exact ⟨hmost, haccepts, found, hfound, hfixed, hchanges, hdiff.trans (by decide +kernel)⟩

/-- The numeral 58^32 with 33 digits is 2^32 times another number, so its last four bytes are the digest of zeros. -/
theorem decodeChecked_power :
    Base58.decodeChecked (Utf8.encode "211111111111111111111111111111111") zeroDigest =
      .ok [10, 248, 32, 51, 93, 155, 61, 156, 245, 139, 145, 29, 135, 3, 86, 119, 251, 127, 82, 129] := by
  rw [Base58.decodeChecked_eq_ok_iff_readSymbols]
  decide +kernel

/-- Nothing but zeros is accepted too, with zeros for a payload. -/
theorem decodeChecked_zeros :
    Base58.decodeChecked (Utf8.encode "111111111111111111111111111111111") zeroDigest = .ok (List.replicate 29 0) := by
  rw [Base58.decodeChecked_eq_ok_iff_readSymbols]
  decide +kernel

/-- An accepted text that is changed: under the digest of zeros a numeral of 33 digits is accepted with every first digit, and
is answered with the least there. -/
theorem repair_of_accepts_changes :
    accepts zeroDigest "211111111111111111111111111111111" ∧
      ∃ found, repair "211111111111111111111111111111111" zeroDigest { maxChanges := 1 } = .ok found ∧
        found.fixed = "111111111111111111111111111111111" ∧ found.fixed ≠ "211111111111111111111111111111111" ∧
        found.changes = 1 ∧ found.diff = "^                                " := by
  have hzeros : withFirst "211111111111111111111111111111111" 0 = "111111111111111111111111111111111" := by decide +kernel
  have hne : "111111111111111111111111111111111" ≠ "211111111111111111111111111111111" := by decide +kernel
  have haccepts : accepts zeroDigest (withFirst "211111111111111111111111111111111" 0) := by
    rw [hzeros]
    exact accepts_iff.mpr ⟨_, decodeChecked_zeros⟩
  obtain ⟨payload, hends⟩ := ends_withFirst Nat.zero_lt_one (by decide +kernel) (by decide) haccepts
    fun _ hsmaller => absurd hsmaller (Nat.not_lt_zero _)
  have hdiffering := differing_withFirst (hzeros.trans_ne hne)
  have hmarks : String.ofList (marker :: List.replicate ("211111111111111111111111111111111".length - 1) ' ') =
      "^                                " := by decide +kernel
  refine ⟨accepts_iff.mpr ⟨_, decodeChecked_power⟩, _, hends.repair_eq rfl, hzeros, hzeros.trans_ne hne, ?_, ?_⟩
  · rw [repairedAs, hdiffering]
    rfl
  · rw [repairedAs, marks_of_differing hdiffering]
    exact hmarks

end KeyText.Repair
