/-!
# Computations that may fail

When a computation succeeds that is put together of others: each of them does. These lemmas take a computation apart from the
outside inward, so that a statement about a command need not follow its errors.
-/

namespace KeyText

variable {ε ε' α β : Type}

/-- One computation after another succeeds exactly when both do. -/
@[simp] theorem bind_eq_ok {x : Except ε α} {f : α → Except ε β} {b : β} :
    (x >>= f) = .ok b ↔ ∃ a, x = .ok a ∧ f a = .ok b := by
  cases x <;> simp [bind, Except.bind]

/-- Giving an answer succeeds with that answer. -/
@[simp] theorem pure_eq_ok {a b : α} : (pure a : Except ε α) = .ok b ↔ a = b := by
  simp [pure, Except.pure]

@[simp] theorem mapError_ok (f : ε → ε') (a : α) : (Except.ok a).mapError f = .ok a := rfl

@[simp] theorem mapError_error (f : ε → ε') (e : ε) : (Except.error e : Except ε α).mapError f = .error (f e) := rfl

/-- Rewording errors changes no success. -/
@[simp] theorem mapError_eq_ok {x : Except ε α} {f : ε → ε'} {a : α} : x.mapError f = .ok a ↔ x = .ok a := by
  cases x <;> simp

/-- A changed answer is one that was changed. -/
@[simp] theorem map_eq_ok {x : Except ε α} {f : α → β} {b : β} : x.map f = .ok b ↔ ∃ a, x = .ok a ∧ f a = b := by
  cases x <;> simp [Except.map]

/-- A step that succeeds on a value which a later step makes of another: it succeeds on what is made of that other value. -/
theorem exists_and_exists_eq {p : β → Prop} {q : α → Prop} {f : α → β} :
    (∃ b, p b ∧ ∃ a, f a = b ∧ q a) ↔ ∃ a, p (f a) ∧ q a := by
  constructor
  · rintro ⟨_, hp, a, rfl, hq⟩
    exact ⟨a, hp, hq⟩
  · rintro ⟨a, hp, hq⟩
    exact ⟨f a, hp, a, rfl, hq⟩

end KeyText
