import KeyText.Text.Blank
import Mathlib.Data.List.Basic

/-!
# White space anywhere in a text

White space is the 25 characters that Unicode gives the property (`isBlank_iff`). A text without its white space is what white space
was put into, at any places (`Spread`, `spread_squeezed`); and putting more into it changes nothing of that (`Spread.squeezed_eq`).
-/

namespace KeyText

/-- The code points with the property White_Space, in ascending order. -/
def whiteSpace : List Nat :=
  [0x0009, 0x000A, 0x000B, 0x000C, 0x000D, 0x0020, 0x0085, 0x00A0, 0x1680, 0x2000, 0x2001, 0x2002, 0x2003, 0x2004, 0x2005, 0x2006,
    0x2007, 0x2008, 0x2009, 0x200A, 0x2028, 0x2029, 0x202F, 0x205F, 0x3000]

/-- The white space is these characters. -/
theorem isBlank_iff {c : Char} : isBlank c ↔ c.toNat ∈ whiteSpace := by
  simp only [isBlank, whiteSpace, List.mem_cons, List.not_mem_nil, or_false, Bool.or_eq_true, Bool.and_eq_true,
    decide_eq_true_eq, beq_iff_eq]
  omega

/-- Whether one text is another with white space put into it, at any places. -/
inductive Spread : List Char → List Char → Prop
  | nil : Spread [] []
  | blank {c : Char} {plain spread : List Char} : c.toNat ∈ whiteSpace → Spread plain spread → Spread plain (c :: spread)
  | keep (c : Char) {plain spread : List Char} : Spread plain spread → Spread (c :: plain) (c :: spread)

/-- White space in front of a text is taken out. -/
theorem squeezed_cons_of_blank {c : Char} (h : isBlank c) (cs : List Char) : squeezed (c :: cs) = squeezed cs := by
  rw [squeezed, List.filter_cons_of_neg (by simp [h]), squeezed]

/-- Any other character in front of a text stays. -/
theorem squeezed_cons_of_not_blank {c : Char} (h : ¬isBlank c) (cs : List Char) : squeezed (c :: cs) = c :: squeezed cs := by
  rw [squeezed, List.filter_cons_of_pos (by simp [h]), squeezed]

/-- White space that is put into a text is taken out with the other. -/
theorem Spread.squeezed_eq {plain spread : List Char} (h : Spread plain spread) : squeezed spread = squeezed plain := by
  induction h with
  | nil => rfl
  | blank hc _ ih => rw [squeezed_cons_of_blank (isBlank_iff.mpr hc), ih]
  | keep c _ ih =>
    by_cases hc : isBlank c
    · rw [squeezed_cons_of_blank hc, squeezed_cons_of_blank hc, ih]
    · rw [squeezed_cons_of_not_blank hc, squeezed_cons_of_not_blank hc, ih]

/-- A text is what is left of it without white space, with the white space put into that. -/
theorem spread_squeezed (cs : List Char) : Spread (squeezed cs) cs := by
  induction cs with
  | nil => exact .nil
  | cons c cs ih =>
    by_cases hc : isBlank c
    · rw [squeezed_cons_of_blank hc]
      exact .blank (isBlank_iff.mp hc) ih
    · rw [squeezed_cons_of_not_blank hc]
      exact .keep c ih

/-- Nothing is taken out of a text that holds no white space. -/
theorem squeezed_eq_self {cs : List Char} (h : ∀ c ∈ cs, ¬isBlank c) : squeezed cs = cs := by
  rw [squeezed, List.filter_eq_self]
  exact fun c hc => by simpa using h c hc

end KeyText
