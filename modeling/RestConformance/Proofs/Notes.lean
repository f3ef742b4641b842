import RestConformance.Proofs.Coupling
import RestConformance.Proofs.Ensures

/-!
# Worlds with notes

A world with a state can be given a list of notes beside the state. What is noted of a computation
may speak of the state that it starts from and of its result, and it changes nothing else about the
run.

## Main definitions

* `Noting` – computations in a world with notes;
* `Noting.noted`, `Noting.silent` – a computation that leaves a note, and one that leaves none;
* `Noting.Agree f S` – two worlds whose notes read the same through `f`.
-/

namespace RestConformance

variable {ν σ α : Type}

/-- Computations in a world with a list of notes beside its own state. -/
abbrev Noting (ν σ : Type) := StateM (List ν × σ)

namespace Noting

/-- The computation, with a note at the end of the list. The note is made of the state before and of
the result. -/
def noted (note : σ → α → ν) (x : StateM σ α) : Noting ν σ α := fun world =>
  let (a, s) := x.run world.2
  (a, world.1 ++ [note world.2 a], s)

/-- The computation, which leaves the notes as they are. -/
def silent (x : StateM σ α) : Noting ν σ α := fun world =>
  let (a, s) := x.run world.2
  (a, world.1, s)

theorem noted_coupled (note : σ → α → ν) (x : StateM σ α) :
    Coupled (fun world s => world.2 = s) Eq (noted note x) x := by
  rintro world _ rfl
  exact ⟨rfl, rfl⟩

theorem silent_coupled (x : StateM σ α) :
    Coupled (fun world s => world.2 = s) Eq (silent (ν := ν) x) x := by
  rintro world _ rfl
  exact ⟨rfl, rfl⟩

/-- What holds of the notes is not touched by a computation that leaves none. -/
theorem silent_keeps {P : List ν → Prop} (x : StateM σ α) :
    Ensures (fun world => P world.1) (silent x) fun _ world => P world.1 :=
  fun _ hworld => hworld

/-- A note that is made of the result alone comes behind those that are there. -/
theorem noted_appends (note : α → ν) (x : StateM σ α) (notes : List ν) :
    Ensures (fun world => world.1 = notes) (noted (fun _ => note) x)
      fun a world => world.1 = notes ++ [note a] := by
  rintro world rfl
  rfl

/-- A note that may stand in a list keeps what is known of each note in it. -/
theorem noted_keeps {P : ν → Prop} {Q : σ → Prop} {note : σ → α → ν} (x : StateM σ α)
    (hnote : ∀ s, Q s → P (note s (x.run s).1)) :
    Ensures (fun world : List ν × σ => (∀ n ∈ world.1, P n) ∧ Q world.2) (noted note x)
      fun _ world => ∀ n ∈ world.1, P n := by
  rintro ⟨notes, s⟩ ⟨hnotes, hs⟩ n hn
  rcases List.mem_append.1 hn with hold | hnew
  · exact hnotes n hold
  · rw [List.mem_singleton.1 hnew]
    exact hnote s hs

/-- The states are related, and the notes are the same when they are read through `f`. -/
def Agree {ξ τ : Type} (f : ν → ξ) (S : σ → τ → Prop) (world : List ν × σ) (world' : List ν × τ) :
    Prop :=
  S world.2 world'.2 ∧ world.1.map f = world'.1.map f

section Agree

variable {ξ τ β : Type} {f : ν → ξ} {S : σ → τ → Prop} {R : α → β → Prop} {x : StateM σ α}

theorem silent_agree {y : StateM τ β} (h : Coupled S R x y) :
    Coupled (Agree f S) R (silent x) (silent y) := by
  rintro world world' ⟨hstates, hnotes⟩
  obtain ⟨hresults, hstates'⟩ := h _ _ hstates
  exact ⟨hresults, hstates', hnotes⟩

/-- Notes that read the same keep the worlds in agreement. -/
theorem noted_agree {y : StateM τ α} {note note' : α → ν} (h : Coupled S Eq x y)
    (hnote : ∀ a, f (note a) = f (note' a)) :
    Coupled (Agree f S) Eq (noted (fun _ => note) x) (noted (fun _ => note') y) := by
  rintro world world' ⟨hstates, hnotes⟩
  obtain ⟨hresults, hstates'⟩ := h _ _ hstates
  refine ⟨hresults, hstates', ?_⟩
  show (world.1 ++ [note (x.run world.2).1]).map f = (world'.1 ++ [note' (y.run world'.2).1]).map f
  rw [List.map_append, List.map_append, hnotes, List.map_singleton, List.map_singleton, hresults,
    hnote]

end Agree

end Noting

end RestConformance
