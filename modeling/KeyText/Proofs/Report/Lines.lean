import KeyText.Proofs.Decimal.Characters
import KeyText.Report.Value

/-!
# Reports in lines

JSON stands on a single line (`json_single_line`): of a text only the escaped form is in it, and numbers are written without line
breaks. The text form of a record has the lines of its fields, one field after the other (`linesOf_plain_record`). A field takes
one line, in which the value begins behind the column of keys (`drop_labelled`), and one more for each line break in it
(`count_labelled`, `length_linesOf`). Only a text may have some, for it is written as it is and any other value as JSON.
-/

namespace KeyText.Report

/-- The lines of a text, which are what stands between its line breaks. -/
def linesOf (s : String) : List (List Char) :=
  s.toList.splitOn '\n'

/-- A value behind a key, in a column of its own. -/
def labelled (width : Nat) (key value : String) : String :=
  padded width key ++ ": " ++ value

variable {s t key value : String} {texts : List String} {width : Nat}

/-! ## Lines -/

/-- A text without a line break is one line. -/
theorem linesOf_eq_singleton (h : '\n' ∉ s.toList) : linesOf s = [s.toList] :=
  List.splitOn_eq_singleton h

/-- There is one more line than line breaks. -/
theorem length_linesOf (s : String) : (linesOf s).length = s.toList.count '\n' + 1 := by
  rw [linesOf]
  induction s.toList with
  | nil => rfl
  | cons c cs ih =>
    rw [List.splitOn_cons_eq_if_modifyHead, List.count_cons]
    split
    · rw [List.length_cons, ih]
    · rw [List.length_modifyHead, ih]

/-- Texts joined by line breaks have the lines of each, one text after the other. -/
theorem linesOf_intercalate (h : texts ≠ []) : linesOf (String.intercalate "\n" texts) = texts.flatMap linesOf := by
  have hbreak : "\n".toList = ['\n'] := rfl
  rw [linesOf, String.toList_intercalate, hbreak]
  induction texts with
  | nil => exact absurd rfl h
  | cons first rest ih =>
    cases rest with
    | nil => rw [List.map_singleton, List.intercalate_singleton, List.flatMap_singleton, linesOf]
    | cons second rest =>
      rw [List.map_cons, List.map_cons, List.intercalate_cons_cons, List.append_assoc, List.singleton_append,
        List.splitOn_append_cons_self, List.flatMap_cons, ← List.map_cons, ih (List.cons_ne_nil _ _), linesOf]

/-- Two texts without line breaks have none together. -/
theorem append_single_line (hs : '\n' ∉ s.toList) (ht : '\n' ∉ t.toList) : '\n' ∉ (s ++ t).toList := by
  rw [String.toList_append, List.mem_append, not_or]
  exact ⟨hs, ht⟩

/-- A joined text has no line break, if neither the separator nor the parts have one. -/
theorem intercalate_single_line (hseparator : '\n' ∉ s.toList) (htexts : ∀ t ∈ texts, '\n' ∉ t.toList) :
    '\n' ∉ (String.intercalate s texts).toList := by
  rw [String.toList_intercalate]
  induction texts with
  | nil => exact List.not_mem_nil
  | cons first rest ih =>
    rw [List.forall_mem_cons] at htexts
    cases rest with
    | nil => simpa using htexts.1
    | cons second rest =>
      rw [List.map_cons, List.map_cons, List.intercalate_cons_cons, ← List.map_cons]
      simp only [List.mem_append, not_or]
      exact ⟨⟨htexts.1, hseparator⟩, ih htexts.2⟩

/-! ## JSON -/

/-- No character is written as a line break inside a JSON string. -/
theorem not_mem_jsonItem (c : Char) : '\n' ∉ jsonItem c := by
  have hdigits : ∀ n < 16, '\n' ∉ Nat.toDigits 16 n := by decide
  rw [jsonItem.eq_def]
  split <;> try decide
  -- Only here the character stands for itself, and the line break is one of the characters above.
  rename_i hbreak _ _
  split
  · rw [List.mem_append, not_or]
    refine ⟨?_, hdigits _ (Nat.mod_lt _ (by decide))⟩
    split <;> decide
  · rw [List.mem_singleton]
    exact fun h => hbreak h.symm

/-- A JSON string has no line break. -/
theorem jsonText_single_line (s : String) : '\n' ∉ (jsonText s).toList := by
  rw [jsonText, String.toList_ofList]
  simp only [List.mem_cons, List.mem_append, List.mem_flatMap, List.not_mem_nil, or_false, not_or, not_exists, not_and]
  exact ⟨by decide, fun c _ => not_mem_jsonItem c, by decide⟩

/-- A natural number is written without a line break. -/
theorem natural_single_line (n : Nat) : '\n' ∉ (toString n).toList := by
  have htoString : toString n = String.ofList (Nat.toDigits 10 n) := rfl
  rw [htoString, String.toList_ofList]
  exact fun h => absurd (Nat.isDigit_of_mem_toDigits (by decide) (by decide) h) (by decide)

/-- An integer is written without a line break. -/
theorem integer_single_line (n : Int) : '\n' ∉ (toString n).toList := by
  cases n with
  | ofNat n => exact natural_single_line n
  | negSucc n =>
    have htoString : toString (Int.negSucc n) = "-" ++ toString (n + 1) := rfl
    rw [htoString]
    exact append_single_line (by decide) (natural_single_line (n + 1))

/-- A double is written without a line break. -/
theorem double_single_line (x : Float) : '\n' ∉ ((numberLayout.double? x).getD "null").toList := by
  have hnumeral : ¬Decimal.IsNumeral '\n' := by
    rw [Decimal.IsNumeral]
    decide
  cases hdouble : numberLayout.double? x with
  | none => decide
  | some text => exact fun h => hnumeral (Decimal.isNumeral_of_double? hdouble h)

mutual

/-- JSON stands on a single line. -/
theorem json_single_line (v : Value) : '\n' ∉ v.json.toList := by
  cases v with
  | null => decide
  | bool b => cases b <;> decide
  | int n => exact integer_single_line n
  | float x => exact double_single_line x
  | text s => exact jsonText_single_line s
  | list items =>
    have hitems := intercalate_single_line (s := ",") (by decide) (jsonItems_single_line items)
    rw [Value.json]
    exact append_single_line (append_single_line (by decide) hitems) (by decide)
  | record fields =>
    have hfields := intercalate_single_line (s := ",") (by decide) (jsonFields_single_line fields)
    rw [Value.json]
    exact append_single_line (append_single_line (by decide) hfields) (by decide)

/-- The items of a list stand on single lines. -/
theorem jsonItems_single_line (items : List Value) : ∀ t ∈ jsonItems items, '\n' ∉ t.toList := by
  cases items with
  | nil => exact fun _ h => absurd h List.not_mem_nil
  | cons item items =>
    rw [jsonItems, List.forall_mem_cons]
    exact ⟨json_single_line item, jsonItems_single_line items⟩

/-- The fields of a record stand on single lines. -/
theorem jsonFields_single_line (fields : List (String × Value)) : ∀ t ∈ jsonFields fields, '\n' ∉ t.toList := by
  cases fields with
  | nil => exact fun _ h => absurd h List.not_mem_nil
  | cons field fields =>
    obtain ⟨key, value⟩ := field
    have hfield := append_single_line (append_single_line (jsonText_single_line key) (t := ":") (by decide)) (json_single_line value)
    rw [jsonFields, List.forall_mem_cons]
    exact ⟨hfield, jsonFields_single_line fields⟩

end

/-! ## Fields -/

/-- The value begins behind the column of keys and the separator, if the key fits in the column. -/
theorem drop_labelled (h : key.length ≤ width) (value : String) :
    (labelled width key value).toList.drop (width + 2) = value.toList := by
  have hlength : ((padded width key).toList ++ ": ".toList).length = width + 2 := by
    have hseparator : ": ".toList.length = 2 := rfl
    rw [padded, String.toList_append, String.toList_ofList, List.length_append, List.length_append, List.length_replicate,
      String.length_toList, hseparator, Nat.add_sub_cancel' h]
  rw [labelled, String.toList_append, String.toList_append, ← hlength, List.drop_left]

/-- There the characters of a value stand in their order. -/
theorem getElem?_labelled (h : key.length ≤ width) (value : String) (i : Nat) :
    (labelled width key value).toList[width + 2 + i]? = value.toList[i]? := by
  rw [← List.getElem?_drop, drop_labelled h]

/-- A field has the line breaks of its key and its value. -/
theorem count_labelled (width : Nat) (key value : String) :
    (labelled width key value).toList.count '\n' = key.toList.count '\n' + value.toList.count '\n' := by
  have hblanks : (List.replicate (width - key.length) ' ').count '\n' = 0 := by
    rw [List.count_replicate, if_neg (by decide)]
  have hseparator : ": ".toList.count '\n' = 0 := rfl
  rw [labelled, padded, String.toList_append, String.toList_append, String.toList_append, String.toList_ofList,
    List.count_append, List.count_append, List.count_append, hblanks, hseparator, Nat.add_zero]

/-- A field without line breaks is one line. -/
theorem linesOf_labelled (hkey : '\n' ∉ key.toList) (hvalue : '\n' ∉ value.toList) :
    linesOf (labelled width key value) = [(labelled width key value).toList] := by
  refine linesOf_eq_singleton (List.count_eq_zero.mp ?_)
  rw [count_labelled, List.count_eq_zero.mpr hkey, List.count_eq_zero.mpr hvalue]

/-- The text form of a record has the lines of its fields, one field after the other. -/
theorem linesOf_plain_record {fields : List (String × Value)} (h : fieldLines fields ≠ []) :
    linesOf (render false (.record fields)) = (fieldLines fields).flatMap linesOf :=
  linesOf_intercalate h

end KeyText.Report
