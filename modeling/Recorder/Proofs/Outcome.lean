/-
# Steps that may fail

A step that gives a value or an error has given a value just if every part of it
has.  These lemmas take such a step apart, so that later proofs never open the
plumbing between its parts.  Two such steps agree in what is kept of their values if
all their parts do (`Outcome.map_bind_congr`).
-/

namespace Recorder
namespace Outcome

variable {ε ε' α β : Type} {step : Except ε α} {v : α} {w : β}

/-- A value goes on to the next step. -/
theorem ok_bind (a : α) (next : α → Except ε β) : (Except.ok a >>= next) = next a := rfl

theorem error_bind (e : ε) (next : α → Except ε β) : (Except.error e >>= next) = .error e := rfl

/-- Two steps in a row have given a value just if the first has given one from which the
second has. -/
@[simp] theorem bind_eq_ok {next : α → Except ε β} :
    step >>= next = .ok w ↔ ∃ a, step = .ok a ∧ next a = .ok w := by
  cases step <;> simp [bind, Except.bind]

/-- A value that was made into another one was there before. -/
@[simp] theorem map_eq_ok {g : α → β} : step.map g = .ok w ↔ ∃ a, step = .ok a ∧ g a = w := by
  cases step <;> simp [Except.map]

@[simp] theorem mapError_ok {g : ε → ε'} : (Except.ok v : Except ε α).mapError g = .ok v := rfl

@[simp] theorem mapError_error {g : ε → ε'} {e : ε} :
    (Except.error e : Except ε α).mapError g = .error (g e) := rfl

/-- However errors are passed on, the values are the same. -/
@[simp] theorem mapError_eq_ok {g : ε → ε'} : step.mapError g = .ok v ↔ step = .ok v := by
  cases step <;> simp

@[simp] theorem isOk_ok (a : α) : (Except.ok a : Except ε α).isOk = true := rfl

@[simp] theorem isOk_error (e : ε) : (Except.error e : Except ε α).isOk = false := rfl

/-- A step has given a value just if there is one that it has given. -/
theorem isOk_iff : step.isOk = true ↔ ∃ a, step = .ok a := by
  cases step <;> simp

/-- Making values into others adds no error and removes none. -/
@[simp] theorem isOk_map (g : α → β) : (step.map g).isOk = step.isOk := by
  cases step <;> rfl

@[simp] theorem isSome_toOption : step.toOption.isSome = step.isOk := by
  cases step <;> rfl

section Agreement

variable {γ δ : Type} {x y : Except ε α} {k l : α → Except ε β} {f : α → γ} {g : β → δ}

/-- **Steps in a row agree** if the first ones do, and the next ones do wherever the values
they are given agree. -/
theorem map_bind_congr (h : x.map f = y.map f)
    (hnext : ∀ a b, f a = f b → (k a).map g = (l b).map g) :
    (x >>= k).map g = (y >>= l).map g := by
  cases x with
  | error e =>
    cases y with
    | error e' =>
      obtain rfl := Except.error.inj h
      rfl
    | ok b => cases h
  | ok a =>
    cases y with
    | error e => cases h
    | ok b => exact hnext a b (Except.ok.inj h)

/-- How an error is passed on changes nothing of the values. -/
theorem map_mapError (e : ε → ε') : (x.mapError e).map f = (x.map f).mapError e := by
  cases x <;> rfl

end Agreement

end Outcome
end Recorder
