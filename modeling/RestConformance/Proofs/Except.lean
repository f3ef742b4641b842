/-!
# Steps that may fail

A computation in steps gives a value only if each of its steps does, so the steps can be taken
apart one after another.

## Main results

* `exists_of_bind_eq_ok`, `exists_of_map_eq_ok` – the value of the first step of a computation that
  gives a value;
* `bind_eq_error_iff` – the error of a computation that fails.

## Main definitions

* `ExceptRel R x y` – `x` and `y` give values related by `R`, or the same error.
-/

namespace RestConformance

variable {ε α β γ : Type} {x : Except ε α} {b : β}

/-- Both give a value and these are related, or both give the same error. -/
inductive ExceptRel (R : α → β → Prop) : Except ε α → Except ε β → Prop where
  | error (e : ε) : ExceptRel R (.error e) (.error e)
  | ok {a : α} {b : β} : R a b → ExceptRel R (.ok a) (.ok b)

/-- Steps that agree up to functions of their values have related values. -/
theorem ExceptRel.of_map_eq {f : α → γ} {g : β → γ} {x : Except ε α} {y : Except ε β}
    (h : x.map f = y.map g) : ExceptRel (fun a b => f a = g b) x y := by
  cases x with
  | error e =>
    cases y with
    | error e' =>
      obtain rfl := Except.error.inj h
      exact .error e
    | ok b => cases h
  | ok a =>
    cases y with
    | error e' => cases h
    | ok b => exact .ok (Except.ok.inj h)

/-- Where values are related to themselves, so are the steps that give them. -/
theorem ExceptRel.refl {R : α → α → Prop} (h : ∀ a, R a a) (x : Except ε α) : ExceptRel R x x := by
  cases x with
  | error e => exact .error e
  | ok a => exact .ok (h a)

/-- Where two steps give a value, the first one gives a value that the second one goes on with. -/
theorem exists_of_bind_eq_ok {f : α → Except ε β} (h : x >>= f = .ok b) :
    ∃ a, x = .ok a ∧ f a = .ok b := by
  cases x with
  | error e => cases h
  | ok a => exact ⟨a, rfl, h⟩

/-- The first step that fails decides. -/
theorem bind_eq_error_iff {f : α → Except ε β} {e : ε} :
    x >>= f = .error e ↔ x = .error e ∨ ∃ a, x = .ok a ∧ f a = .error e := by
  cases x with
  | error d => simp [bind, Except.bind]
  | ok a => simp [bind, Except.bind]

theorem exists_of_map_eq_ok {f : α → β} (h : x.map f = .ok b) : ∃ a, x = .ok a ∧ f a = b := by
  cases x with
  | error e => cases h
  | ok a => exact ⟨a, rfl, Except.ok.inj h⟩

end RestConformance
