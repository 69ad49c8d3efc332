import KeyText.Decimal.Layout

/-!
# The characters of written numbers

Whatever the layout, a number is written with digits, a point, signs and the `e` of an exponent alone (`isNumeral_of_double?`).
-/

namespace KeyText.Decimal

/-- A character that numbers are written with. -/
def IsNumeral (c : Char) : Prop :=
  c.isDigit ∨ c ∈ ['.', '+', '-', 'e']

variable {c : Char} {s : Scientific}

/-- The digits of a natural number without the zeros at its end are digits. -/
theorem isDigit_of_mem_significant {n : Nat} (h : c ∈ significant n) : c.isDigit := by
  rw [significant] at h
  split at h
  · rw [List.mem_singleton] at h
    subst h
    rfl
  · have hkept := (List.dropWhile_sublist _).mem (List.mem_reverse.mp h)
    exact Nat.isDigit_of_mem_toDigits (by decide) (by decide) (List.mem_reverse.mp hkept)

/-- The shortest decimal number that reads back as a double has digits alone. -/
theorem isDigit_of_mem_shortest {mantissa : Nat} {exponent : Int} (h : c ∈ (shortest mantissa exponent).digits) :
    c.isDigit := by
  rw [shortest] at h
  split at h
  · rw [List.mem_singleton] at h
    subst h
    rfl
  · exact isDigit_of_mem_significant h

/-- Without an exponent, a number is written with its digits, zeros and the point. -/
theorem isNumeral_of_mem_positional (hdigits : ∀ d ∈ s.digits, d.isDigit) (h : c ∈ positional s) : IsNumeral c := by
  have hzeros : ∀ {count : Nat}, c ∈ List.replicate count '0' → c.isDigit := by
    intro count hc
    rw [List.eq_of_mem_replicate hc]
    rfl
  rw [positional] at h
  split at h
  · simp only [List.mem_append, List.mem_cons, List.not_mem_nil, or_false] at h
    rcases h with ((rfl | rfl) | hzero) | hdigit
    · exact Or.inl rfl
    · exact Or.inr (by decide)
    · exact Or.inl (hzeros hzero)
    · exact Or.inl (hdigits c hdigit)
  · dsimp only at h
    rw [List.mem_append, List.mem_cons] at h
    rcases h with hwhole | rfl | hfraction
    · rcases List.mem_append.mp (List.mem_of_mem_take hwhole) with hdigit | hzero
      · exact Or.inl (hdigits c hdigit)
      · exact Or.inl (hzeros hzero)
    · exact Or.inr (by decide)
    · split at hfraction
      · rw [List.mem_singleton] at hfraction
        subst hfraction
        exact Or.inl rfl
      · exact Or.inl (hdigits c (List.mem_of_mem_drop hfraction))

/-- Besides the digits there is only a point. -/
theorem mem_of_mem_pointed {digits : List Char} (h : c ∈ pointed digits) : c ∈ '.' :: digits := by
  match digits with
  | [] | [_] => exact List.mem_cons_of_mem _ h
  | first :: second :: rest =>
    rw [pointed, List.mem_cons, List.mem_cons] at h
    rw [List.mem_cons, List.mem_cons]
    exact or_left_comm.mp h

/-- With an exponent, a number is written with its digits, the point, and the digits of the exponent behind `e` and its sign. -/
theorem isNumeral_of_mem_scientific (hdigits : ∀ d ∈ s.digits, d.isDigit)
    (h : c ∈ pointed s.digits ++ 'e' :: signed s.exponent) : IsNumeral c := by
  rw [List.mem_append, List.mem_cons, signed, List.mem_cons] at h
  rcases h with hdigit | rfl | rfl | hexponent
  · rcases List.mem_cons.mp (mem_of_mem_pointed hdigit) with rfl | hdigit
    · exact Or.inr (by decide)
    · exact Or.inl (hdigits c hdigit)
  · exact Or.inr (by decide)
  · split <;> exact Or.inr (by decide)
  · exact Or.inl (Nat.isDigit_of_mem_toDigits (by decide) (by decide) hexponent)

/-- In every layout a number is written with the characters of numbers. -/
theorem isNumeral_of_mem_write {layout : Layout} (hdigits : ∀ d ∈ s.digits, d.isDigit) (h : c ∈ layout.write s) :
    IsNumeral c := by
  rw [Layout.write] at h
  split at h
  · exact isNumeral_of_mem_positional hdigits h
  · exact isNumeral_of_mem_scientific hdigits h

/-- Where a double is written, the characters of numbers are used. -/
theorem isNumeral_of_double? {layout : Layout} {x : Float} {text : String} (h : layout.double? x = some text)
    (hc : c ∈ text.toList) : IsNumeral c := by
  rw [Layout.double?] at h
  split at h
  · cases h
    rw [withSign, String.toList_ofList] at hc
    split at hc
    · rcases List.mem_cons.mp hc with rfl | hc
      · exact Or.inr (by decide)
      · exact isNumeral_of_mem_write (fun d => isDigit_of_mem_shortest) hc
    · exact isNumeral_of_mem_write (fun d => isDigit_of_mem_shortest) hc
  · cases h

end KeyText.Decimal
