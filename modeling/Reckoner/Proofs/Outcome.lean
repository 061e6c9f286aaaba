/-!
# Outcomes of stages

A stage gives a result or a cause why there is none, and a sequence of stages
gives a result exactly when each of them does.
-/

namespace Except

variable {ε ε' α β : Type}

@[simp] theorem ok_bind_eq (a : α) (f : α → Except ε β) : (Except.ok a >>= f) = f a := rfl

@[simp] theorem error_bind_eq (cause : ε) (f : α → Except ε β) :
    (Except.error cause >>= f) = .error cause := rfl

@[simp] theorem map_ok_eq (f : α → β) (a : α) :
    (Except.ok a : Except ε α).map f = .ok (f a) := rfl

@[simp] theorem map_error_eq (f : α → β) (cause : ε) :
    (Except.error cause : Except ε α).map f = .error cause := rfl

@[simp] theorem mapError_ok_eq (f : ε → ε') (a : α) :
    (Except.ok a : Except ε α).mapError f = .ok a := rfl

@[simp] theorem mapError_error_eq (f : ε → ε') (cause : ε) :
    (Except.error cause : Except ε α).mapError f = .error (f cause) := rfl

theorem map_eq_ok_iff {f : α → β} {x : Except ε α} {b : β} :
    x.map f = .ok b ↔ ∃ a, x = .ok a ∧ f a = b := by
  cases x <;> simp

@[simp] theorem map_eq_error_iff {f : α → β} {x : Except ε α} {cause : ε} :
    x.map f = .error cause ↔ x = .error cause := by
  cases x <;> simp

theorem bind_eq_ok_iff {f : α → Except ε β} {x : Except ε α} {b : β} :
    x >>= f = .ok b ↔ ∃ a, x = .ok a ∧ f a = .ok b := by
  cases x <;> simp

@[simp] theorem mapError_eq_ok_iff {f : ε → ε'} {x : Except ε α} {a : α} :
    x.mapError f = .ok a ↔ x = .ok a := by
  cases x <;> simp

theorem eq_ok_of_toOption {x : Except ε α} {a : α} (h : x.toOption = some a) : x = .ok a := by
  cases x with
  | error cause => cases h
  | ok b => rw [Option.some.inj h]

/-- Mapping twice is mapping once. -/
theorem map_map_eq {γ : Type} (f : α → β) (g : β → γ) (x : Except ε α) :
    (x.map f).map g = x.map fun a => g (f a) := by
  cases x <;> rfl

/-- What follows a mapped stage can read the mapped result itself. -/
theorem map_bind_eq {γ : Type} (f : α → β) (g : β → Except ε γ) (x : Except ε α) :
    x.map f >>= g = x >>= fun a => g (f a) := by
  cases x <;> rfl

end Except
