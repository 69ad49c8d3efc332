import KeyText.Proofs.Repair.Distance

/-!
# What is told of a repaired text

A search compares bytes when it marks what it changed, one for each character. An accepted candidate has characters of the
alphabet alone, and the byte of such a character is the byte of no other, so the marks stand under the characters that differ
and the number of changes is the number of those (`repaired_eq`). Of the problem nothing else is told: neither the checksum
nor the limits have a part in the answer, once the candidate, its payload and its place are known.
-/

namespace KeyText.Repair

open Base58 (alphabet lt_of_mem_alphabet)

/-- A mark for every character of a text that differs from another's, and spaces. -/
def marks (before after : String) : String :=
  String.ofList ((List.range before.length).map fun i => if i ∈ differing before after then marker else ' ')

/-- The answer for a repaired text with its payload, as the candidate of a place. -/
def repairedAs (text fixed : String) (payload : List UInt8) (tried : Nat) : Repaired :=
  { given := text
    fixed
    diff := marks text fixed
    payload
    changes := (differing text fixed).length
    tried }

/-- Marks are as many as there are differences. -/
theorem count_marks (before after : String) : (marks before after).toList.count marker = (differing before after).length := by
  have hspace : (' ' == marker) = false := by decide
  rw [marks, String.toList_ofList, List.count, List.countP_map]
  calc _ = (List.range before.length).countP fun i => before.toList[i]? ≠ after.toList[i]? := by
        apply List.countP_congr
        intro i hi
        have hiff : i ∈ differing before after ↔ before.toList[i]? ≠ after.toList[i]? :=
          mem_differing_iff.trans (and_iff_right (List.mem_range.mp hi))
        by_cases h : i ∈ differing before after
        · simp [h, hiff.mp h]
        · simp [h, hspace, not_not.mp (mt hiff.mpr h)]
    _ = _ := List.countP_eq_length_filter

/-- No other character has the byte of a character of the alphabet. -/
theorem byteOf_eq_iff {a b : Char} (h : b ∈ alphabet) : byteOf a = byteOf b ↔ a = b := by
  refine ⟨fun hsame => ?_, fun hsame => by rw [hsame]⟩
  have hmem : a ∈ alphabet := by
    rw [← byteOf_mem_codes_iff, hsame, byteOf_mem_codes_iff]
    exact h
  rw [← ofNat_byteOf (lt_of_mem_alphabet hmem), hsame, ofNat_byteOf (lt_of_mem_alphabet h)]

/-- Comparing the bytes of the characters of a text with those of a text over the alphabet marks the characters that
differ. -/
theorem zipWith_characters {before after : String} (hlength : after.length = before.length)
    (hsymbols : ∀ c ∈ after.toList, c ∈ alphabet) :
    String.ofList ((characters before).zipWith (fun b a => if b = a then ' ' else marker) (characters after)) =
      marks before after := by
  rw [marks, characters_eq_map, characters_eq_map, List.zipWith_map]
  congr 1
  apply List.ext_getElem
  · rw [List.length_zipWith, String.length_toList, String.length_toList, hlength, Nat.min_self, List.length_map,
      List.length_range]
  · intro i hi hi'
    rw [List.length_map, List.length_range] at hi'
    have hbefore : i < before.toList.length := by rwa [String.length_toList]
    have hafter : i < after.toList.length := by rwa [String.length_toList, hlength]
    rw [List.getElem_zipWith, List.getElem_map, List.getElem_range]
    have hiff : byteOf before.toList[i] = byteOf after.toList[i] ↔ i ∉ differing before after := by
      rw [byteOf_eq_iff (hsymbols _ (List.getElem_mem hafter)), mem_differing_iff, List.getElem?_eq_getElem hbefore,
        List.getElem?_eq_getElem hafter, ne_eq, Option.some.injEq]
      exact ⟨fun h hdiff => hdiff.2 h, fun h => not_not.mp fun hne => h ⟨hi', hne⟩⟩
    by_cases h : i ∈ differing before after
    · rw [if_neg fun hsame => hiff.mp hsame h, if_pos h]
    · rw [if_pos (hiff.mpr h), if_neg h]

/-- What a search tells of an accepted candidate: the two texts, the characters that differ, the payload and the place. -/
theorem repaired_eq {text fixed : String} {checksum : Checksum} {limits : Limits} {payload : List UInt8} {tried : Nat}
    (hlength : fixed.length = text.length)
    (haccepted : Base58.decodeChecked (Utf8.encode fixed) checksum = .ok payload) :
    (problemOf text checksum limits).repaired (characters fixed) payload tried = repairedAs text fixed payload tried := by
  have hsymbols := mem_alphabet_of_decodeChecked haccepted
  have hmarks := zipWith_characters hlength hsymbols
  have hchanges := count_marks text fixed
  rw [← hmarks, String.toList_ofList] at hchanges
  rw [repairedAs, ← hmarks, ← hchanges]
  dsimp only [Problem.repaired, problemOf]
  rw [asciiText_characters fun c hc => lt_of_mem_alphabet (hsymbols c hc)]

end KeyText.Repair
