/-!
# Outcomes of calls

A call to something outside the library returns a value, fails with an error that its signature
names, or breaks off. What breaks off carries a payload that is a text in most cases; the outcome
keeps the text where there is one.

## Main definitions

* `Crash` – what a call that broke off leaves behind;
* `Outcome` – the three ends of a call;
* `Outcome.chain` – two effectful calls, the second one only after the first has returned.
-/

namespace RestConformance

/-- What a call that broke off leaves behind. -/
structure Crash where
  /-- The payload, if it is a text. -/
  text : Option String
  deriving DecidableEq, Repr

/-- The text that stands for a crash in reports. -/
def Crash.message (crash : Crash) : String :=
  crash.text.getD "unknown panic"

/-- How a call ends. -/
inductive Outcome (ε α : Type) where
  | returned (value : α)
  | failed (error : ε)
  /-- The call broke off. -/
  | crashed (crash : Crash)
  deriving DecidableEq, Repr

namespace Outcome

variable {ε φ α β : Type}

/-- Goes on with the value of a call that returned. -/
def bind (outcome : Outcome ε α) (next : α → Outcome ε β) : Outcome ε β :=
  match outcome with
  | .returned value => next value
  | .failed error => .failed error
  | .crashed crash => .crashed crash

instance : Monad (Outcome ε) where
  pure := .returned
  bind := bind

/-- Applies a function to the value of a call that returned. -/
def mapValue (f : α → β) : Outcome ε α → Outcome ε β
  | .returned value => .returned (f value)
  | .failed error => .failed error
  | .crashed crash => .crashed crash

/-- Applies a function to the error of a call that failed. -/
def mapError (f : ε → φ) : Outcome ε α → Outcome φ α
  | .returned value => .returned value
  | .failed error => .failed (f error)
  | .crashed crash => .crashed crash

/-- The outcome of a computation that cannot break off. -/
def ofExcept : Except ε α → Outcome ε α
  | .ok value => .returned value
  | .error error => .failed error

/-- The outcome of a computation that cannot fail but may break off. -/
def ofRun : Except Crash α → Outcome ε α
  | .ok value => .returned value
  | .error crash => .crashed crash

/-- Runs a second call on the value of a first one. When the first does not return, the second is
not run. -/
def chain {m : Type → Type} [Monad m] (first : m (Outcome ε α)) (next : α → m (Outcome ε β)) :
    m (Outcome ε β) := do
  match ← first with
  | .returned value => next value
  | .failed error => return .failed error
  | .crashed crash => return .crashed crash

instance : LawfulMonad (Outcome ε) :=
  LawfulMonad.mk' (Outcome ε) (fun x => by cases x <;> rfl) (fun _ _ => rfl)
    (fun x _ _ => by cases x <;> rfl)

@[simp] theorem ofExcept_eq_returned {result : Except ε α} {value : α} :
    ofExcept result = .returned value ↔ result = .ok value := by
  cases result <;> simp [ofExcept]

@[simp] theorem ofExcept_eq_failed {result : Except ε α} {error : ε} :
    ofExcept result = .failed error ↔ result = .error error := by
  cases result <;> simp [ofExcept]

@[simp] theorem ofExcept_ne_crashed {result : Except ε α} {crash : Crash} :
    ofExcept result ≠ .crashed crash := by
  cases result <;> simp [ofExcept]

end Outcome

end RestConformance
