import RestConformance.Outcome

/-!
# What computations ensure

Statements on one computation in a world with a state: what holds of its result and of the state
that it leaves, if something holds of the state before.

## Main definitions

* `Ensures P x Q` – from states with `P`, the result of `x` and the state that it leaves satisfy
  `Q`.

## Design notes

There is a rule for each way of putting computations together. The rule for chains lets a
postcondition speak of all three ends of a call, so that what holds after failures and crashes is
carried along and not stated apart.
-/

namespace RestConformance

variable {σ α β ε : Type} {P : σ → Prop} {R : α → σ → Prop} {Q : β → σ → Prop}

/-- From states with `P`, the computation gives a result and leaves a state that satisfy `Q`. -/
def Ensures (P : σ → Prop) (x : StateM σ β) (Q : β → σ → Prop) : Prop :=
  ∀ s, P s → Q (x.run s).1 (x.run s).2

namespace Ensures

theorem pure {b : β} (h : ∀ s, P s → Q b s) : Ensures P (Pure.pure b) Q :=
  h

theorem mono {P' : σ → Prop} {x : StateM σ β} (hP : ∀ s, P s → P' s) (hx : Ensures P' x Q) :
    Ensures P x Q :=
  fun s hs => hx s (hP s hs)

/-- What the states before have in common and is no matter of the state may be used at once. -/
theorem given {p : Prop} {x : StateM σ β} (hp : ∀ s, P s → p) (hx : p → Ensures P x Q) :
    Ensures P x Q :=
  fun s hs => hx (hp s hs) s hs

/-- What holds after the first computation is what the second one may start from. -/
theorem bind {x : StateM σ α} {f : α → StateM σ β} (hx : Ensures P x R)
    (hf : ∀ a, Ensures (R a) (f a) Q) : Ensures P (x >>= f) Q := by
  intro s hs
  exact hf _ _ (hx s hs)

/-- A computation that does not touch what is known may come before another one. -/
theorem after {x : StateM σ α} {f : α → StateM σ β} (hx : Ensures P x fun _ => P)
    (hf : ∀ a, Ensures P (f a) Q) : Ensures P (x >>= f) Q :=
  hx.bind hf

/-- A chain goes on after a call that returned, and ends where the call failed or crashed. -/
theorem chain {x : StateM σ (Outcome ε α)} {next : α → StateM σ (Outcome ε β)}
    {R : Outcome ε α → σ → Prop} {Q : Outcome ε β → σ → Prop} (hx : Ensures P x R)
    (hnext : ∀ a, Ensures (R (.returned a)) (next a) Q)
    (hfailed : ∀ error s, R (.failed error) s → Q (.failed error) s)
    (hcrashed : ∀ crash s, R (.crashed crash) s → Q (.crashed crash) s) :
    Ensures P (Outcome.chain x next) Q := by
  refine hx.bind fun outcome => ?_
  cases outcome with
  | returned a => exact hnext a
  | failed error => exact pure (hfailed error)
  | crashed crash => exact pure (hcrashed crash)

theorem forM {f : α → StateM σ PUnit} (hf : ∀ a, Ensures P (f a) fun _ => P)
    (items : List α) : Ensures P (items.forM f) fun _ => P := by
  induction items with
  | nil => exact pure fun _ hs => hs
  | cons item rest ih => exact (hf item).after fun _ => ih

end Ensures

end RestConformance
