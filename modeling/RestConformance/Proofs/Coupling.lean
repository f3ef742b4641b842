import RestConformance.Outcome

/-!
# Coupled computations

Two computations with states of their own are coupled when states that are related lead to results
that are related, and again to related states. A coupling says what two runs have in common without
saying what either of them does.

## Main definitions

* `Coupled S R x y` – from states related by `S`, the computations `x` and `y` give results related
  by `R` and leave states related by `S`;
* `Outcome.Rel R x y` – two calls return values related by `R`, or end in the same way.

## Design notes

Each way of putting computations together has a rule. Most couplings are between computations with
equal results, so the rules for those take no relation on the results.
-/

namespace RestConformance

variable {σ τ α β γ δ ε : Type} {S : σ → τ → Prop} {R : α → β → Prop} {Q : γ → δ → Prop}

/-- Both calls return values that are related, or both fail with the same error, or both crash
alike. -/
inductive Outcome.Rel (R : α → β → Prop) : Outcome ε α → Outcome ε β → Prop where
  | returned {a : α} {b : β} : R a b → Rel R (.returned a) (.returned b)
  | failed (error : ε) : Rel R (.failed error) (.failed error)
  | crashed (crash : Crash) : Rel R (.crashed crash) (.crashed crash)

theorem Outcome.Rel.mono {R' : α → β → Prop} {x : Outcome ε α} {y : Outcome ε β}
    (h : Outcome.Rel R x y) (hmono : ∀ a b, R a b → R' a b) : Outcome.Rel R' x y := by
  cases h with
  | returned h => exact .returned (hmono _ _ h)
  | failed error => exact .failed error
  | crashed crash => exact .crashed crash

/-- Values that agree up to functions agree also behind the calls. -/
theorem Outcome.Rel.mapValue_eq {f : α → γ} {g : β → γ} {x : Outcome ε α} {y : Outcome ε β}
    (h : Outcome.Rel (fun a b => f a = g b) x y) : x.mapValue f = y.mapValue g := by
  cases h with
  | returned h => exact congrArg Outcome.returned h
  | failed error => rfl
  | crashed crash => rfl

/-- From states related by `S`, both computations give results related by `R` and leave states
related by `S`. -/
def Coupled (S : σ → τ → Prop) (R : α → β → Prop) (x : StateM σ α) (y : StateM τ β) : Prop :=
  ∀ s t, S s t → R (x.run s).1 (y.run t).1 ∧ S (x.run s).2 (y.run t).2

namespace Coupled

theorem pure {a : α} {b : β} (h : R a b) : Coupled S R (Pure.pure a) (Pure.pure b) :=
  fun _ _ hstates => ⟨h, hstates⟩

/-- A computation is coupled with itself. -/
theorem refl (x : StateM σ α) : Coupled Eq Eq x x := by
  rintro s _ rfl
  exact ⟨rfl, rfl⟩

/-- What relates the results may say less. -/
theorem mono {R' : α → β → Prop} {x : StateM σ α} {y : StateM τ β} (hx : Coupled S R x y)
    (h : ∀ a b, R a b → R' a b) : Coupled S R' x y := by
  intro s t hstates
  obtain ⟨hresults, hstates'⟩ := hx s t hstates
  exact ⟨h _ _ hresults, hstates'⟩

/-- What follows two coupled computations is coupled if it is so for all related results. -/
theorem bind {x : StateM σ α} {y : StateM τ β} {f : α → StateM σ γ} {g : β → StateM τ δ}
    (hx : Coupled S R x y) (hf : ∀ a b, R a b → Coupled S Q (f a) (g b)) :
    Coupled S Q (x >>= f) (y >>= g) := by
  intro s t hstates
  obtain ⟨hresults, hstates'⟩ := hx s t hstates
  exact hf _ _ hresults _ _ hstates'

theorem bind_eq {x : StateM σ α} {y : StateM τ α} {f : α → StateM σ γ} {g : α → StateM τ δ}
    (hx : Coupled S Eq x y) (hf : ∀ a, Coupled S Q (f a) (g a)) :
    Coupled S Q (x >>= f) (y >>= g) := by
  refine hx.bind ?_
  rintro a _ rfl
  exact hf a

/-- Chains are coupled link by link: where the first calls do not return, neither chain goes on. -/
theorem chain {x : StateM σ (Outcome ε α)} {y : StateM τ (Outcome ε α)}
    {f : α → StateM σ (Outcome ε γ)} {g : α → StateM τ (Outcome ε γ)}
    (hx : Coupled S Eq x y) (hf : ∀ a, Coupled S Eq (f a) (g a)) :
    Coupled S Eq (Outcome.chain x f) (Outcome.chain y g) := by
  refine hx.bind_eq fun outcome => ?_
  cases outcome with
  | returned value => exact hf value
  | failed error => exact pure rfl
  | crashed crash => exact pure rfl

/-- Chains whose first calls return different values are coupled if what follows is so for all
related values. -/
theorem chain_rel {x : StateM σ (Outcome ε α)} {y : StateM τ (Outcome ε β)}
    {f : α → StateM σ (Outcome ε γ)} {g : β → StateM τ (Outcome ε δ)}
    (hx : Coupled S (Outcome.Rel R) x y)
    (hf : ∀ a b, R a b → Coupled S (Outcome.Rel Q) (f a) (g b)) :
    Coupled S (Outcome.Rel Q) (Outcome.chain x f) (Outcome.chain y g) := by
  refine hx.bind fun outcome outcome' h => ?_
  cases h with
  | returned h => exact hf _ _ h
  | failed error => exact pure (.failed error)
  | crashed crash => exact pure (.crashed crash)

theorem forM {f : α → StateM σ PUnit} {g : α → StateM τ PUnit}
    (hf : ∀ a, Coupled S Eq (f a) (g a)) (items : List α) :
    Coupled S Eq (items.forM f) (items.forM g) := by
  induction items with
  | nil => exact pure rfl
  | cons item rest ih => exact (hf item).bind_eq fun _ => ih

end Coupled

end RestConformance
