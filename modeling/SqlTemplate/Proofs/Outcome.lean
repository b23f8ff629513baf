/-!
# Steps that can fail

Reading and rendering are sequences of steps each of which gives a value or a fault. What is known
about the whole sequence is known about its steps by the two equivalences here: it gives a value
when each step does, and **its fault is the fault of one step**, all steps before which succeeded.
-/

set_option autoImplicit false

namespace SqlTemplate
namespace Outcome

variable {ε α β : Type}

theorem bind_eq_ok_iff {x : Except ε α} {next : α → Except ε β} {b : β} :
    (x >>= next) = .ok b ↔ ∃ a, x = .ok a ∧ next a = .ok b := by
  cases x <;> simp [bind, Except.bind]

theorem bind_eq_error_iff {x : Except ε α} {next : α → Except ε β} {e : ε} :
    (x >>= next) = .error e ↔ x = .error e ∨ ∃ a, x = .ok a ∧ next a = .error e := by
  cases x <;> simp [bind, Except.bind]

theorem map_eq_ok_iff {x : Except ε α} {f : α → β} {b : β} :
    x.map f = .ok b ↔ ∃ a, x = .ok a ∧ f a = b := by
  cases x <;> simp [Except.map]

theorem map_eq_error_iff {x : Except ε α} {f : α → β} {e : ε} :
    x.map f = .error e ↔ x = .error e := by
  cases x <;> simp [Except.map]

theorem mapError_eq_ok_iff {ε' : Type} {x : Except ε α} {f : ε → ε'} {a : α} :
    x.mapError f = .ok a ↔ x = .ok a := by
  cases x with
  | error cause =>
    constructor
    · intro h
      cases h
    · intro h
      cases h
  | ok b =>
    constructor
    · intro h
      exact congrArg Except.ok (Except.ok.inj h)
    · intro h
      exact congrArg Except.ok (Except.ok.inj h)

theorem mapError_eq_error_iff {ε' : Type} {x : Except ε α} {f : ε → ε'} {e : ε'} :
    x.mapError f = .error e ↔ ∃ cause, x = .error cause ∧ f cause = e := by
  cases x with
  | error cause =>
    constructor
    · intro h
      exact ⟨cause, rfl, Except.error.inj h⟩
    · intro h
      obtain ⟨other, hother, rfl⟩ := h
      cases hother
      rfl
  | ok a =>
    constructor
    · intro h
      cases h
    · intro h
      obtain ⟨other, hother, -⟩ := h
      cases hother

theorem mapError_mapError {ε' ε'' : Type} (x : Except ε α) (f : ε → ε') (g : ε' → ε'') :
    (x.mapError f).mapError g = x.mapError (g ∘ f) := by
  cases x <;> rfl

theorem mapError_map {ε' : Type} (x : Except ε α) (f : α → β) (g : ε → ε') :
    (x.map f).mapError g = (x.mapError g).map f := by
  cases x <;> rfl

/-- Going on alike after outcomes that differ only in what is erased of a fault comes to outcomes
that do. -/
theorem bind_mapError_congr {ε' : Type} {erase : ε → ε'} {x y : Except ε α}
    (h : x.mapError erase = y.mapError erase) {f g : α → Except ε β}
    (hnext : ∀ a, (f a).mapError erase = (g a).mapError erase) :
    (x >>= f).mapError erase = (y >>= g).mapError erase := by
  cases x with
  | ok a =>
    obtain rfl : y = .ok a := mapError_eq_ok_iff.mp h.symm
    exact hnext a
  | error e =>
    obtain ⟨e', rfl, he⟩ := mapError_eq_error_iff.mp h.symm
    exact congrArg Except.error he.symm

end Outcome
end SqlTemplate
