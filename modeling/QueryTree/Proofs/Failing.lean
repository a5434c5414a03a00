/-!
# Computations that may fail

Much of the library is computations one after the other, each of which may fail and then ends the
whole.  What such a chain comes to is told by its first failure, and two chains that run side by
side can be compared by theirs.

## Main definitions

* `failure?`: what a computation fails with.
* `FailAlike`: two computations fail with the same, or neither fails.

## Main results

* `exists_of_bind_eq_ok` — a chain that succeeds has succeeded at every step.
* `FailAlike.bind` — chains fail alike if their steps do.
-/

namespace QueryTree

variable {ε ε' α α' β β' : Type}

theorem exists_of_bind_eq_ok {x : Except ε α} {f : α → Except ε β} {b : β}
    (h : (x >>= f) = .ok b) : ∃ a, x = .ok a ∧ f a = .ok b := by
  cases x with
  | error e => cases h
  | ok a => exact ⟨a, rfl, h⟩

theorem eq_ok_of_mapError_eq_ok {x : Except ε α} {f : ε → ε'} {a : α}
    (h : x.mapError f = .ok a) : x = .ok a := by
  cases x with
  | error e => cases h
  | ok b => exact congrArg Except.ok (Except.ok.inj h)

/-- What a computation fails with, if it does. -/
def failure? : Except ε α → Option ε
  | .ok _ => none
  | .error e => some e

theorem failure?_eq_none_iff {x : Except ε α} : failure? x = none ↔ ∃ a, x = .ok a := by
  cases x <;> simp [failure?]

theorem failure?_eq_some_iff {x : Except ε α} {e : ε} : failure? x = some e ↔ x = .error e := by
  cases x <;> simp [failure?]

theorem failure?_bind (x : Except ε α) (f : α → Except ε β) :
    failure? (x >>= f) = match x with
      | .ok a => failure? (f a)
      | .error e => some e := by
  cases x <;> rfl

/-- Two computations fail with the same, or neither fails. -/
def FailAlike (x : Except ε α) (y : Except ε β) : Prop := failure? x = failure? y

namespace FailAlike

variable {x : Except ε α} {y : Except ε β}

theorem bind {f : α → Except ε α'} {g : β → Except ε β'} (h : FailAlike x y)
    (hfg : ∀ a b, FailAlike (f a) (g b)) : FailAlike (x >>= f) (y >>= g) := by
  rw [FailAlike, failure?_bind, failure?_bind]
  cases x with
  | error e =>
    cases y with
    | error e' => exact h
    | ok b => cases h
  | ok a =>
    cases y with
    | error e' => cases h
    | ok b => exact hfg a b

theorem exists_eq_ok (h : FailAlike x y) {a : α} (hx : x = .ok a) : ∃ b, y = .ok b := by
  subst hx
  cases y with
  | error e => cases h
  | ok b => exact ⟨b, rfl⟩

end FailAlike
end QueryTree
