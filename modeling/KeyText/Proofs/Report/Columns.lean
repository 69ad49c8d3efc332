import KeyText.Proofs.Bytes.Hex
import KeyText.Proofs.Decimal.Magnitude
import KeyText.Proofs.Repair.Consistency
import KeyText.Proofs.Report.Lines
import KeyText.Report.Response

/-!
# The columns of a repair

The text form of a repair is meant to line up column for column: seven lines, one for each field, in which the given text, the
found one and the marks stand under one another (`LinesUp`). The keys fit into one column, the numbers and the found text have no
line breaks, and the risk is a finite number, so that no field is left out. But the given text is written as it is: each line
break inside it adds a line, and the lines line up exactly when it has none (`repair_lines_up_iff`).
-/

namespace KeyText.Report

open KeyText.Repair (Always Limits Repaired repair repairedAs search zeroDigest)

/-- The text form of what is reported of a repair. -/
def repairText (found : Repaired) : String :=
  render false (Repair.ofRepaired found).value

/-- The fields of a repair behind the given text, with their values as they are written. -/
def fieldsBehind (found : Repaired) : List (String × String) :=
  [("fixed", found.fixed), ("diff", found.diff), ("payload", Hex.encode found.payload), ("changes", toString found.changes),
    ("candidates_tried", toString found.tried), ("false_positive_probability", (Value.float found.falsePositives).json)]

/-- A field of a repair as text. The longest key has 26 characters. -/
def fieldText (field : String × String) : String :=
  labelled 26 field.1 field.2

/-- Whether the lines of a repair line up column for column: there is one for each of the seven fields, in order; in the first three
of them the values begin at one column, and a mark stands in the third where the characters of the first two differ. -/
structure LinesUp (found : Repaired) (lines : List (List Char)) : Prop where
  /-- There is one line for each field, in order. -/
  fields : lines = (("original", found.given) :: fieldsBehind found).map fun field => (fieldText field).toList
  /-- The three texts begin at one column, and there the marks stand under the characters that differ. -/
  columns : ∃ column original fixed diff others, lines = original :: fixed :: diff :: others ∧
    original.drop column = found.given.toList ∧ fixed.drop column = found.fixed.toList ∧
    diff.drop column = found.diff.toList ∧
    ∀ i < found.given.length, diff[column + i]? = some '^' ↔ original[column + i]? ≠ fixed[column + i]?

variable {text : String} {checksum : Checksum} {maxChanges : Nat} {found : Repaired}

/-- Lines that line up are seven. -/
theorem LinesUp.length {lines : List (List Char)} (h : LinesUp found lines) : lines.length = 7 := by
  rw [h.fields]
  rfl

/-- The text form of a repair has the lines of its seven fields. The risk is not left out, for it is a finite number. -/
theorem linesOf_repairText (htried : found.tried < 2 ^ 64) :
    linesOf (repairText found) = (("original", found.given) :: fieldsBehind found).flatMap fun field =>
      linesOf (fieldText field) := by
  have hrisk : Value.ofFloat found.falsePositives = .float found.falsePositives :=
    if_pos (Decimal.isFinite_falsePositives htried)
  obtain ⟨fields, hvalue, hlines⟩ : ∃ fields, (Repair.ofRepaired found).value = .record fields ∧
      fieldLines fields = (("original", found.given) :: fieldsBehind found).map fieldText := by
    rw [Repair.value]
    dsimp only [Repair.ofRepaired]
    rw [hrisk]
    exact ⟨_, rfl, rfl⟩
  rw [repairText, hvalue, linesOf_plain_record (by rw [hlines]; exact List.cons_ne_nil _ _), hlines, List.flatMap_map]

/-- Behind the given text no field of a consistent repair has a line break, neither in its key nor in its value. -/
theorem fieldsBehind_single_line (h : found.Consistent text checksum maxChanges) :
    ∀ field ∈ fieldsBehind found, '\n' ∉ field.1.toList ∧ '\n' ∉ field.2.toList := by
  have hfixed : '\n' ∉ found.fixed.toList := fun hbreak => absurd (h.symbols '\n' hbreak) (by decide +kernel)
  have hdiff : '\n' ∉ found.diff.toList := by
    intro hbreak
    obtain ⟨i, hget⟩ := List.mem_iff_getElem?.mp hbreak
    have hi : i < text.length := by
      rw [← h.length_diff, ← String.length_toList]
      exact (List.getElem?_eq_some_iff.mp hget).1
    have hmark := h.marks i hi
    rw [hget, Option.some.injEq] at hmark
    split at hmark <;> cases hmark
  have hpayload : '\n' ∉ (Hex.encode found.payload).toList := by
    rw [Hex.encode, String.toList_ofList]
    exact fun hbreak => absurd ((Hex.digitPairs_digits found.payload).mem '\n' hbreak) (by decide +kernel)
  simp only [fieldsBehind, List.forall_mem_cons]
  exact ⟨⟨by decide +kernel, hfixed⟩, ⟨by decide +kernel, hdiff⟩, ⟨by decide +kernel, hpayload⟩,
    ⟨by decide +kernel, natural_single_line _⟩, ⟨by decide +kernel, natural_single_line _⟩,
    ⟨by decide +kernel, json_single_line _⟩, fun _ hnone => absurd hnone List.not_mem_nil⟩

/-- The lines of a consistent repair are those of the given text behind its key, and one for each other field. -/
theorem linesOf_repairText_of_consistent (h : found.Consistent text checksum maxChanges) (htried : found.tried < 2 ^ 64) :
    linesOf (repairText found) =
      linesOf (fieldText ("original", text)) ++ (fieldsBehind found).map fun field => (fieldText field).toList := by
  have hlines : ∀ field ∈ fieldsBehind found, linesOf (fieldText field) = [(fieldText field).toList] := by
    intro field hfield
    obtain ⟨hkey, hvalue⟩ := fieldsBehind_single_line h field hfield
    exact linesOf_labelled hkey hvalue
  rw [linesOf_repairText htried, List.flatMap_cons, h.given, List.map_eq_flatMap, List.flatMap_congr hlines]

/-- There are seven lines, and one more for each line break in the given text. -/
theorem length_linesOf_repairText (h : found.Consistent text checksum maxChanges) (htried : found.tried < 2 ^ 64) :
    (linesOf (repairText found)).length = 7 + text.toList.count '\n' := by
  have hkey : "original".toList.count '\n' = 0 := by decide +kernel
  have hbehind : (fieldsBehind found).length = 6 := rfl
  rw [linesOf_repairText_of_consistent h htried, List.length_append, List.length_map, length_linesOf, fieldText, count_labelled]
  dsimp only
  omega

/-- Without a line break in the given text, the lines line up. -/
theorem linesUp_of_consistent (h : found.Consistent text checksum maxChanges) (htried : found.tried < 2 ^ 64)
    (hbreak : '\n' ∉ text.toList) : LinesUp found (linesOf (repairText found)) := by
  have hkey : '\n' ∉ "original".toList := by decide +kernel
  have horiginal : linesOf (fieldText ("original", text)) = [(fieldText ("original", text)).toList] :=
    linesOf_labelled hkey hbreak
  have hlines : linesOf (repairText found) =
      (("original", found.given) :: fieldsBehind found).map fun field => (fieldText field).toList := by
    rw [linesOf_repairText_of_consistent h htried, horiginal, h.given]
    rfl
  have hgiven : "original".length ≤ 26 := by decide +kernel
  have hfixed : "fixed".length ≤ 26 := by decide +kernel
  have hdiff : "diff".length ≤ 26 := by decide +kernel
  refine ⟨hlines, 26 + 2, _, _, _, _, hlines, drop_labelled hgiven _, drop_labelled hfixed _, drop_labelled hdiff _, ?_⟩
  intro i hi
  rw [h.given] at hi
  dsimp only [fieldText]
  rw [getElem?_labelled hgiven, getElem?_labelled hfixed, getElem?_labelled hdiff, h.given, h.marks i hi, Option.some.injEq,
    ite_eq_right_iff]
  exact imp_congr_right fun _ => iff_of_false (by decide) not_false

/-- How the text form of a repair stands in lines, whether or not there are line breaks in the given text. -/
structure RepairLines (text : String) (found : Repaired) : Prop where
  /-- The first field has the lines of the given text, and each of the six others has one line. -/
  fields : linesOf (repairText found) =
    linesOf (fieldText ("original", text)) ++ (fieldsBehind found).map fun field => (fieldText field).toList
  /-- There are seven lines, and one more for each line break in the given text. -/
  length : (linesOf (repairText found)).length = 7 + text.toList.count '\n'
  /-- The lines line up column for column exactly when the given text has no line break. -/
  linesUp_iff : LinesUp found (linesOf (repairText found)) ↔ '\n' ∉ text.toList

/-- The text form of a consistent repair stands so in lines. -/
theorem repairLines_of_consistent (h : found.Consistent text checksum maxChanges) (htried : found.tried < 2 ^ 64) :
    RepairLines text found := by
  have hlength := length_linesOf_repairText h htried
  refine ⟨linesOf_repairText_of_consistent h htried, hlength, fun hup => ?_, linesUp_of_consistent h htried⟩
  rw [hup.length] at hlength
  exact List.count_eq_zero.mp (by omega)

/-- The text form of a repair, whatever the text, the checksum, the limits, the clock and the monad, as long as the number of tried
candidates fits into 64 bits: each field but the given text has one line, and the seven lines line up column for column exactly when
the given text has no line break, for each of which there is a line more. -/
theorem repair_lines_up_iff {m : Type → Type} [Monad m] [LawfulMonad m] (text : String) (checksum : Checksum) (limits : Limits)
    (clock : Nat → m Nat) :
    Always (fun outcome => ∀ found, outcome.answer = .ok found → found.tried < 2 ^ 64 → RepairLines text found)
        (search text checksum limits clock) ∧
      ∀ found, repair text checksum limits = .ok found → found.tried < 2 ^ 64 → RepairLines text found := by
  refine Repair.forall_found clock fun found hanswers htried => ?_
  exact repairLines_of_consistent (Repair.consistent_of_answers hanswers) htried

/-- A found text whose given one has no line break, but a character of two bytes: seven lines that line up. -/
theorem repair_lines_up_two_wrong_characters :
    repair "é1l1" zeroDigest { maxChanges := 2 } = .ok (repairedAs "é1l1" "1111" [] 3597) ∧ 3597 < 2 ^ 64 ∧
      LinesUp (repairedAs "é1l1" "1111" [] 3597) (linesOf (repairText (repairedAs "é1l1" "1111" [] 3597))) := by
  have hfound := Repair.ends_two_wrong_characters.repair_eq rfl
  have htried : 3597 < 2 ^ 64 := by decide
  have hbreak : '\n' ∉ "é1l1".toList := by decide +kernel
  obtain ⟨-, hlines⟩ := repair_lines_up_iff "é1l1" zeroDigest { maxChanges := 2 } fun _ => (pure 0 : Id Nat)
  exact ⟨hfound, htried, (hlines _ hfound htried).linesUp_iff.mpr hbreak⟩

/-- A line break inside a text is a wrong character like others, and is repaired with the first symbol. -/
theorem ends_line_break :
    Repair.Ends "1\n11" zeroDigest { maxChanges := 1 } (.ok (repairedAs "1\n11" "1111" [] 59)) := by
  have hchoices : Repair.choices "1\n11".length 1 = [[0]] ++ [1] :: [[2], [3]] := by
    decide +kernel
  have hwrong : ∀ earlier ∈ [[0]], ∃ i ∉ earlier, ∃ c ∉ Base58.alphabet, "1\n11".toList[i]? = some c := by
    intro earlier hearlier
    have hout : ∀ earlier ∈ [[0]], 1 ∉ earlier := by decide
    exact ⟨1, hout earlier hearlier, '\n', by decide +kernel, by decide +kernel⟩
  exact Repair.ends_of_wrong_characters hchoices hwrong (by decide +kernel) Repair.decodeChecked_four_zeros

/-- A repair whose lines do not line up: the given text has a line break, so there are eight lines and not seven. -/
theorem eight_lines_of_line_break :
    repair "1\n11" zeroDigest { maxChanges := 1 } = .ok (repairedAs "1\n11" "1111" [] 59) ∧ 59 < 2 ^ 64 ∧
      (linesOf (repairText (repairedAs "1\n11" "1111" [] 59))).length = 8 ∧
      ¬LinesUp (repairedAs "1\n11" "1111" [] 59) (linesOf (repairText (repairedAs "1\n11" "1111" [] 59))) := by
  have htried : 59 < 2 ^ 64 := by decide
  have hsymbols := Repair.mem_alphabet_of_decodeChecked Repair.decodeChecked_four_zeros
  have hnear : Repair.Near "1\n11" 1 "1111" := ⟨by decide +kernel, hsymbols, by decide +kernel⟩
  have hconsistent := Repair.consistent_repairedAs 59 hnear Repair.decodeChecked_four_zeros
  have hbreaks : "1\n11".toList.count '\n' = 1 := by decide +kernel
  have height := length_linesOf_repairText hconsistent htried
  rw [hbreaks] at height
  refine ⟨ends_line_break.repair_eq rfl, htried, height, fun hup => ?_⟩
  rw [hup.length] at height
  exact absurd height (by decide)

end KeyText.Report
