/-
**Results and faults.**

Readers, conversions and validators all yield a result or say what is wrong.  A chain of them yields a
result if every link does, and otherwise fails where the first link fails.

Main definitions:

* `FailsOnly` — whatever fault there is has a property.

Main results:

* `bind_eq_ok`, `bind_eq_error` — how a chain yields a result, and how it fails;
* `map_eq_ok`, `mapError_eq_ok` — a result or a fault that was changed comes from one before;
* `FailsOnly.bind` — what the faults of all links have in common, those of the chain have too.
-/

import Mathlib

set_option relaxedAutoImplicit false
set_option autoImplicit false

namespace Conform

variable {α β ε ε' ε'' : Type}

@[simp] theorem ok_bind (a : α) (f : α → Except ε β) : (Except.ok a >>= f) = f a := rfl

@[simp] theorem error_bind (e : ε) (f : α → Except ε β) : (Except.error e >>= f) = .error e := rfl

@[simp] theorem ok_map (f : α → β) (a : α) : f <$> (Except.ok a : Except ε α) = .ok (f a) := rfl

@[simp] theorem error_map (f : α → β) (e : ε) : f <$> (Except.error e : Except ε α) = .error e := rfl

@[simp] theorem mapError_ok (f : ε → ε') (a : α) :
    (Except.ok a : Except ε α).mapError f = .ok a := rfl

@[simp] theorem mapError_error (f : ε → ε') (e : ε) :
    (Except.error e : Except ε α).mapError f = .error (f e) := rfl

@[simp] theorem mapError_eq_ok {x : Except ε α} {f : ε → ε'} {a : α} :
    x.mapError f = .ok a ↔ x = .ok a := by
  cases x <;> simp

theorem mapError_eq_error {x : Except ε α} {f : ε → ε'} {e : ε'} :
    x.mapError f = .error e ↔ ∃ inner, x = .error inner ∧ f inner = e := by
  cases x <;> simp

theorem mapError_bind (x : Except ε α) (f : α → Except ε β) (g : ε → ε') :
    (x >>= f).mapError g = x.mapError g >>= fun a => (f a).mapError g := by
  cases x <;> rfl

theorem mapError_map (f : α → β) (x : Except ε α) (g : ε → ε') :
    (f <$> x).mapError g = f <$> x.mapError g := by
  cases x <;> rfl

theorem mapError_mapError (x : Except ε α) (f : ε → ε') (g : ε' → ε'') :
    (x.mapError f).mapError g = x.mapError fun e => g (f e) := by
  cases x <;> rfl

theorem mapError_id (x : Except ε α) : (x.mapError fun e => e) = x := by
  cases x <;> rfl

theorem map_eq_ok {x : Except ε α} {f : α → β} {b : β} :
    f <$> x = .ok b ↔ ∃ a, x = .ok a ∧ f a = b := by
  cases x <;> simp

theorem map_eq_error {x : Except ε α} {f : α → β} {e : ε} :
    f <$> x = .error e ↔ x = .error e := by
  cases x <;> simp

/-- A chain that yields a result does so in both links. -/
theorem bind_eq_ok {x : Except ε α} {f : α → Except ε β} {b : β} :
    x >>= f = .ok b ↔ ∃ a, x = .ok a ∧ f a = .ok b := by
  cases x <;> simp

/-- A chain fails in its first link, or in the second behind a result of the first. -/
theorem bind_eq_error {x : Except ε α} {f : α → Except ε β} {e : ε} :
    x >>= f = .error e ↔ x = .error e ∨ ∃ a, x = .ok a ∧ f a = .error e := by
  cases x <;> simp

/-! ### Faults of one sort -/

/-- If there is a fault, then it has the property. -/
def FailsOnly (p : ε → Prop) (x : Except ε α) : Prop := ∀ e, x = .error e → p e

namespace FailsOnly

variable {p : ε → Prop} {x : Except ε α}

theorem ok (a : α) : FailsOnly p (.ok a) := by
  rintro _ ⟨⟩

theorem error {e : ε} (h : p e) : FailsOnly p (.error e : Except ε α) := by
  rintro _ ⟨⟩
  exact h

theorem bind {f : α → Except ε β} (hx : FailsOnly p x) (hf : ∀ a, FailsOnly p (f a)) :
    FailsOnly p (x >>= f) := by
  intro e h
  rcases bind_eq_error.1 h with h | ⟨a, -, h⟩
  · exact hx e h
  · exact hf a e h

theorem map (f : α → β) (hx : FailsOnly p x) : FailsOnly p (f <$> x) :=
  fun e h => hx e (map_eq_error.1 h)

/-- The faults that were changed have what all changed faults have. -/
theorem mapError {q : ε' → Prop} {f : ε → ε'} (hf : ∀ e, q (f e)) : FailsOnly q (x.mapError f) := by
  intro e h
  obtain ⟨inner, -, rfl⟩ := mapError_eq_error.1 h
  exact hf inner

/-- The faults that were changed have what those before have that are to be changed. -/
theorem comp_mapError {q : ε' → Prop} {f : ε → ε'} (h : FailsOnly (fun e => q (f e)) x) :
    FailsOnly q (x.mapError f) := by
  intro e he
  obtain ⟨inner, hinner, rfl⟩ := mapError_eq_error.1 he
  exact h inner hinner

theorem mapM {f : α → Except ε β} (hf : ∀ a, FailsOnly p (f a)) (a : Option α) :
    FailsOnly p (a.mapM f) := by
  cases a with
  | none => exact ok none
  | some a => exact map some (hf a)

end FailsOnly

end Conform
