/-!
# Computations that can fail

Two steps one after the other succeed if both do (`exists_of_bind_eq_ok`), and
how they end is a matter of how the first one ends and of what the second makes
of its result (`bind_eq_bind_of_ok`).  They fail as the first step does, or else
as the second does (`error?_bind`).
-/

namespace CodeMetrics

/-- A computation of two steps that succeeds has two steps that do. -/
theorem exists_of_bind_eq_ok {ε α β : Type _} {x : Except ε α} {f : α → Except ε β} {b : β}
    (h : x >>= f = .ok b) : ∃ a, x = .ok a ∧ f a = .ok b := by
  cases x with
  | error e => cases h
  | ok a => exact ⟨a, rfl, h⟩

/-- Two computations of two steps agree if their first steps fail alike or both succeed, and what
follows success agrees. -/
theorem bind_eq_bind_of_ok {ε α β : Type _} {x y : Except ε α} {f g : α → Except ε β}
    (hxy : x = y ∨ ∃ a b, x = .ok a ∧ y = .ok b)
    (h : ∀ a b, x = .ok a → y = .ok b → f a = g b) : x >>= f = y >>= g := by
  rcases hxy with rfl | ⟨a, b, rfl, rfl⟩
  · cases x with
    | error e => rfl
    | ok a => exact h a a rfl rfl
  · exact h a b rfl rfl

/-- Renaming troubles makes no success. -/
theorem eq_ok_of_mapError {ε ε' α : Type _} {f : ε → ε'} {x : Except ε α} {a : α}
    (h : x.mapError f = .ok a) : x = .ok a := by
  cases x with
  | error e => cases h
  | ok b =>
    cases h
    rfl

/-! ## How a computation fails -/

section

variable {ε ε' α β : Type _}

/-- What a computation fails with, if it fails. -/
def error? : Except ε α → Option ε
  | .ok _ => none
  | .error e => some e

@[simp] theorem error?_ok (a : α) : error? (.ok a : Except ε α) = none := rfl

@[simp] theorem error?_error (e : ε) : error? (.error e : Except ε α) = some e := rfl

theorem error?_eq_some_iff {x : Except ε α} {e : ε} : error? x = some e ↔ x = .error e := by
  cases x with
  | error e' => simp
  | ok a => simp

theorem error?_eq_none_iff {x : Except ε α} : error? x = none ↔ ∃ a, x = .ok a := by
  cases x with
  | error e => simp
  | ok a => simp

theorem error?_mapError (f : ε → ε') (x : Except ε α) :
    error? (x.mapError f) = (error? x).map f := by
  cases x <;> rfl

theorem error?_map (f : α → β) (x : Except ε α) : error? (x.map f) = error? x := by
  cases x <;> rfl

/-- Two steps fail as the first one does, and where it succeeds, as the second one does. -/
theorem error?_bind {x : Except ε α} {f : α → Except ε β} {later : Option ε}
    (h : ∀ a, x = .ok a → error? (f a) = later) : error? (x >>= f) = (error? x).or later := by
  cases x with
  | error e => rfl
  | ok a => exact h a rfl

end

end CodeMetrics
