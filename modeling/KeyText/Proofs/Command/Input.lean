import KeyText.Command.Input
import KeyText.Proofs.Bytes.Hex
import KeyText.Proofs.Results
import KeyText.Proofs.Text.Blank
import Mathlib.Data.List.TakeWhile

/-!
# What a command reads

A source holds bytes. Where they are UTF-8, they are read as a text without the white space around it
(`Source.readText_eq_ok_iff`); white space that is put around a text without any is all that is trimmed (`Pads.trimmed_eq`).
They are read as a byte string in hexadecimal exactly when they are a spelling of it (`Spells`, `Source.readBytes_eq_ok_iff`).
What is written as hexadecimal is such a spelling (`spells_encode`).
-/

namespace KeyText

/-! ## White space -/

/-- Nothing is dropped from a text that holds no white space. -/
theorem dropWhile_isBlank_eq {cs : List Char} (h : ∀ c ∈ cs, ¬isBlank c) : cs.dropWhile isBlank = cs := by
  cases cs with
  | nil => rfl
  | cons c cs => exact List.dropWhile_cons_of_neg (h c List.mem_cons_self)

/-- Whether a text is another one with white space around it, or without. -/
def Pads (text padded : String) : Prop :=
  ∃ before after : List Char, (∀ c ∈ before, isBlank c) ∧ (∀ c ∈ after, isBlank c) ∧
    padded.toList = before ++ text.toList ++ after

/-- A text is itself without white space around it. -/
theorem Pads.refl (text : String) : Pads text text :=
  ⟨[], [], by simp⟩

/-- White space around a text without any is trimmed, and nothing else. -/
theorem Pads.trimmed_eq {text padded : String} (h : Pads text padded) (htext : ∀ c ∈ text.toList, ¬isBlank c) :
    trimmed padded.toList = text.toList := by
  obtain ⟨before, after, hbefore, hafter, heq⟩ := h
  rw [heq, trimmed, List.append_assoc, List.dropWhile_append_of_pos hbefore]
  cases hcs : text.toList with
  | nil => simp [List.dropWhile_eq_nil_iff.mpr hafter]
  | cons c cs =>
    rw [hcs] at htext
    have hfirst : (c :: cs ++ after).dropWhile isBlank = c :: cs ++ after :=
      List.dropWhile_cons_of_neg (htext c List.mem_cons_self)
    have hreverse : ∀ d ∈ (c :: cs).reverse, ¬isBlank d := fun d hd => htext d (List.mem_reverse.mp hd)
    rw [hfirst, List.reverse_append, List.dropWhile_append_of_pos fun d hd => hafter d (List.mem_reverse.mp hd),
      dropWhile_isBlank_eq hreverse, List.reverse_reverse]

/-! ## Hexadecimal -/

/-- Pairs of digits hold no white space. -/
theorem squeezed_of_digitPairs {cs : List Char} {bytes : List UInt8} (h : Hex.DigitPairs cs bytes) : squeezed cs = cs := by
  have hall : "0123456789abcdefABCDEF".toList.all (fun c => ¬isBlank c) = true := by
    decide +kernel
  exact squeezed_eq_self fun c hc => of_decide_eq_true (List.all_eq_true.mp hall c (h.mem c hc))

namespace Command

/-- Pairs of digits do not begin with a mark: their second character is a digit. -/
theorem withoutHexMark_of_digitPairs {cs : List Char} {bytes : List UInt8} (h : Hex.DigitPairs cs bytes) :
    withoutHexMark cs = cs := by
  have hother : 'x' ∉ "0123456789abcdefABCDEF".toList ∧ 'X' ∉ "0123456789abcdefABCDEF".toList := by
    decide +kernel
  unfold withoutHexMark
  split
  · exact absurd (h.mem 'x' (by simp)) hother.1
  · exact absurd (h.mem 'X' (by simp)) hother.2
  · rfl

/-- Whether a text spells a byte string: without white space, and then without a mark, its letters in lower case are those
that the byte string is written in. -/
def Spells (text : String) (bytes : List UInt8) : Prop :=
  (withoutHexMark (squeezed text.toList)).map Char.toLower = Hex.digits bytes

instance (text : String) (bytes : List UInt8) : Decidable (Spells text bytes) :=
  inferInstanceAs (Decidable (_ = _))

/-- The hexadecimal of a byte string spells it. -/
theorem spells_encode (bytes : List UInt8) : Spells (Hex.encode bytes) bytes := by
  have hpairs := Hex.digitPairs_digits bytes
  rw [Spells, Hex.encode, String.toList_ofList, squeezed_of_digitPairs hpairs, withoutHexMark_of_digitPairs hpairs]
  exact Hex.digitPairs_iff.mp hpairs

-- White space goes first, so it may also stand inside the mark.
example : Spells " 0 X00\nfF " [0x00, 0xFF] := by decide +kernel

/-! ## Sources -/

/-- Whether a source holds a text. -/
def Source.Holds (files : Files) (source : Source) (text : String) : Prop :=
  source.read files = .ok (Utf8.encode text)

/-- A value on the command line holds itself. -/
theorem Source.holds_value (files : Files) (text : String) : Source.Holds files { value? := some text } text := rfl

/-- The input is read as a text exactly when it holds one; what is read is that text without the white space around it. -/
theorem Source.readText_eq_ok_iff {files : Files} {source : Source} {s : String} :
    source.readText files = .ok s ↔ ∃ text, source.Holds files text ∧ String.ofList (trimmed text.toList) = s := by
  simp only [Holds, readText, bind_eq_ok, mapError_eq_ok, pure_eq_ok, Utf8.decode_eq_ok_iff]
  exact exists_and_exists_eq

/-- White space around a text without any is not read. -/
theorem Source.Holds.readText_eq {files : Files} {source : Source} {text padded : String} (h : source.Holds files padded)
    (hpads : Pads text padded) (htext : ∀ c ∈ text.toList, ¬isBlank c) : source.readText files = .ok text := by
  refine Source.readText_eq_ok_iff.mpr ⟨padded, h, ?_⟩
  rw [hpads.trimmed_eq htext, String.ofList_toList]

/-- Bytes are read in hexadecimal as a byte string exactly when they write a text that spells it. -/
theorem parseBytes_hex_eq_ok_iff {raw bytes : List UInt8} :
    parseBytes raw .hex = .ok bytes ↔ ∃ text, Utf8.encode text = raw ∧ Spells text bytes := by
  simp only [parseBytes, bind_eq_ok, mapError_eq_ok, Utf8.decode_eq_ok_iff, Hex.decode_eq_ok_iff, String.toList_ofList]
  rfl

/-- The input is read as a byte string in hexadecimal exactly when it holds a text that spells it. -/
theorem Source.readBytes_eq_ok_iff {files : Files} {source : Source} {bytes : List UInt8} :
    source.readBytes files .hex = .ok bytes ↔ ∃ text, source.Holds files text ∧ Spells text bytes := by
  simp only [Holds, readBytes, bind_eq_ok, parseBytes_hex_eq_ok_iff]
  exact exists_and_exists_eq

end Command

end KeyText
