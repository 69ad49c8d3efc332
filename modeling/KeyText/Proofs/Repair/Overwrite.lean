import KeyText.Repair.Candidate
import KeyText.Proofs.Base58.Numeral

/-!
# Writing over positions and taking it back

A working copy that agrees with the text outside the positions of a choice is enough: writing symbols on all those positions
gives the candidate that writing them over the text itself gives (`overwrite_eq_of_agree`), and writing the characters of the
text back gives the text (`restore?_eq_some`). Neither fails on positions of the text and digits below 58.
-/

namespace KeyText.Repair

/-- Writes over positions of a list what a function makes of the digits, one after the other. -/
def overwrite {α : Type} (symbol : UInt8 → α) (text : List α) (changes : List (Nat × UInt8)) : List α :=
  changes.foldl (fun text change => text.set change.1 (symbol change.2)) text

section Overwrite

variable {α β : Type} (symbol : UInt8 → α)

theorem overwrite_cons (text : List α) (p : Nat) (d : UInt8) (changes : List (Nat × UInt8)) :
    overwrite symbol text ((p, d) :: changes) = overwrite symbol (text.set p (symbol d)) changes := rfl

/-- Writing keeps the number of elements. -/
@[simp] theorem length_overwrite (text : List α) (changes : List (Nat × UInt8)) :
    (overwrite symbol text changes).length = text.length := by
  induction changes generalizing text with
  | nil => rfl
  | cons change changes ih => rw [overwrite_cons, ih, List.length_set]

/-- Changing every element of what was written is writing changed elements over a changed list. -/
theorem map_overwrite (f : α → β) (text : List α) (changes : List (Nat × UInt8)) :
    (overwrite symbol text changes).map f = overwrite (f ∘ symbol) (text.map f) changes := by
  induction changes generalizing text with
  | nil => rfl
  | cons change changes ih => rw [overwrite_cons, ih, overwrite_cons, List.map_set, Function.comp_apply]

/-- Only the symbols of digits that are written count. -/
theorem overwrite_congr {symbol symbol' : UInt8 → α} (text : List α) {changes : List (Nat × UInt8)}
    (h : ∀ change ∈ changes, symbol change.2 = symbol' change.2) :
    overwrite symbol text changes = overwrite symbol' text changes := by
  induction changes generalizing text with
  | nil => rfl
  | cons change changes ih =>
    rw [overwrite_cons, overwrite_cons, h change List.mem_cons_self]
    exact ih _ fun c hc => h c (List.mem_cons_of_mem change hc)

/-- Elements outside the positions stay. -/
theorem getElem?_overwrite_of_not_mem (text : List α) {changes : List (Nat × UInt8)} {i : Nat}
    (h : i ∉ changes.map Prod.fst) : (overwrite symbol text changes)[i]? = text[i]? := by
  induction changes generalizing text with
  | nil => rfl
  | cons change changes ih =>
    obtain ⟨hne, hrest⟩ := not_or.mp (List.mem_cons.not.mp h)
    rw [overwrite_cons, ih _ hrest, List.getElem?_set_ne (Ne.symm hne)]

/-- On a position that is written once stands the symbol for its digit. -/
theorem getElem?_overwrite_of_mem {text : List α} {changes : List (Nat × UInt8)} (honce : (changes.map Prod.fst).Nodup)
    {p : Nat} {d : UInt8} (h : (p, d) ∈ changes) (hp : p < text.length) :
    (overwrite symbol text changes)[p]? = some (symbol d) := by
  induction changes generalizing text with
  | nil => exact absurd h List.not_mem_nil
  | cons change changes ih =>
    rw [List.map_cons, List.nodup_cons] at honce
    rw [overwrite_cons]
    rcases List.mem_cons.mp h with rfl | hrest
    · rw [getElem?_overwrite_of_not_mem symbol _ honce.1, List.getElem?_set_self hp]
    · apply ih honce.2 hrest
      rwa [List.length_set]

/-- What stood on the positions before does not count. -/
theorem overwrite_eq_of_agree {text other : List α} {changes : List (Nat × UInt8)} (hlength : text.length = other.length)
    (h : ∀ i, i ∉ changes.map Prod.fst → text[i]? = other[i]?) :
    overwrite symbol text changes = overwrite symbol other changes := by
  induction changes generalizing text other with
  | nil =>
    apply List.ext_getElem?
    intro i
    exact h i List.not_mem_nil
  | cons change changes ih =>
    obtain ⟨p, d⟩ := change
    rw [overwrite_cons, overwrite_cons]
    apply ih
    · rw [List.length_set, List.length_set, hlength]
    · intro i hi
      by_cases hip : i = p
      · subst hip
        rw [List.getElem?_set, List.getElem?_set, if_pos rfl, if_pos rfl, hlength]
      · rw [List.getElem?_set_ne (Ne.symm hip), List.getElem?_set_ne (Ne.symm hip)]
        exact h i (by simpa [hip] using hi)

/-- Writing what stands there already changes nothing. -/
theorem overwrite_self {text : List α} {changes : List (Nat × UInt8)}
    (h : ∀ change ∈ changes, text[change.1]? = some (symbol change.2)) : overwrite symbol text changes = text := by
  induction changes with
  | nil => rfl
  | cons change changes ih =>
    obtain ⟨p, d⟩ := change
    obtain ⟨hp, hsymbol⟩ := List.getElem?_eq_some_iff.mp (h (p, d) List.mem_cons_self)
    rw [overwrite_cons]
    dsimp only at hsymbol
    rw [← hsymbol, List.set_getElem_self]
    exact ih fun c hc => h c (List.mem_cons_of_mem _ hc)

end Overwrite

/-! ## The working copy -/

/-- The symbol for a digit, as a byte of the working copy. -/
def symbolByte (digit : UInt8) : UInt8 :=
  Base58.symbolOf digit.toNat

/-- Writing symbols on positions of the text never fails. -/
theorem overwrite?_eq_some {text : List UInt8} {changes : List (Nat × UInt8)}
    (h : ∀ change ∈ changes, change.1 < text.length ∧ change.2.toNat < 58) :
    overwrite? text changes = some (overwrite symbolByte text changes) := by
  induction changes generalizing text with
  | nil => rfl
  | cons change changes ih =>
    obtain ⟨p, d⟩ := change
    obtain ⟨hp, hd⟩ := h (p, d) List.mem_cons_self
    have hsymbol : Base58.symbol? d = some (symbolByte d) := by
      rw [symbolByte, ← Base58.symbol?_ofNat hd, UInt8.ofNat_toNat]
    rw [overwrite?, hsymbol, overwrite_cons]
    dsimp only at hp ⊢
    rw [if_pos hp]
    apply ih
    intro c hc
    rw [List.length_set]
    exact h c (List.mem_cons_of_mem _ hc)

/-- Writing the characters of the text back over the positions of a choice gives the text again. -/
theorem restore?_eq_some {text working : List UInt8} {positions : List Nat} (hlength : working.length = text.length)
    (hpositions : ∀ p ∈ positions, p < text.length) (h : ∀ i, i ∉ positions → working[i]? = text[i]?) :
    restore? text working positions = some text := by
  induction positions generalizing working with
  | nil =>
    rw [restore?, Option.some.injEq]
    apply List.ext_getElem?
    intro i
    exact h i List.not_mem_nil
  | cons p positions ih =>
    have hp : p < text.length := hpositions p List.mem_cons_self
    have hw : p < working.length := by rwa [hlength]
    rw [restore?, List.getElem?_eq_getElem hp]
    dsimp only
    rw [if_pos hw]
    apply ih
    · rw [List.length_set, hlength]
    · exact fun q hq => hpositions q (List.mem_cons_of_mem p hq)
    · intro i hi
      by_cases hip : i = p
      · subst hip
        rw [List.getElem?_set_self hw, List.getElem?_eq_getElem hp]
      · rw [List.getElem?_set_ne (Ne.symm hip)]
        exact h i (by simp [hip, hi])

end KeyText.Repair
