import RestConformance.Proofs.Notes
import RestConformance.Proofs.Suite.Coupling

/-!
# Recorded runs

A runner in a world with a state can be made to keep a record: each call of a port goes to the end
of a list, together with what the port answered. The record is what statements about runs speak of,
because it holds for ports that answer in any way, also by failures and crashes that depend on all
the calls before.

## Main definitions

* `SuiteEvent` – a call of a port and its answer;
* `SuiteRunner.recorded` – the runner that keeps a record;
* `SuiteRunner.unitsTrace`, `SuiteRunner.trace` – the record of a run of units, or of a registry;
* `Emits x post` – what a computation adds to the record, and its result, satisfy `post`.

## Main results

* `SuiteRunner.recorded_coupled` – a record changes nothing else about a run.
-/

namespace RestConformance

/-- A call to the outside world and its answer. -/
inductive SuiteEvent where
  | created (connectorName : String) (answer : Outcome FixtureFailure Link)
  | saved (link : Link) (answer : Outcome FixtureFailure Unit)
  | requested (request : Http.Request) (answer : Outcome Http.Failure Capture)
  | deleted (name : String) (answer : Outcome FixtureFailure Unit)
  | looked (name : String) (answer : Outcome FixtureFailure Bool)
  deriving DecidableEq

/-- Whether the event is a deletion that crashed. -/
def SuiteEvent.isCrashedDeletion : SuiteEvent → Bool
  | .deleted _ (.crashed _) => true
  | _ => false

variable {σ α β ε : Type}

/-- Computations in a world that keeps a record of calls beside its own state. -/
abbrev Recorder (σ : Type) := Noting SuiteEvent σ

/-- The client, with a record of its calls. -/
def FixtureClient.recorded (client : FixtureClient (StateM σ)) : FixtureClient (Recorder σ) where
  create connectorName :=
    Noting.noted (fun _ => .created connectorName) (client.create connectorName)
  save link := Noting.noted (fun _ => .saved link) (client.save link)
  delete name := Noting.noted (fun _ => .deleted name) (client.delete name)
  contains name := Noting.noted (fun _ => .looked name) (client.contains name)

namespace SuiteRunner

/-- The runner, with a record of the calls of its ports. -/
def recorded (runner : SuiteRunner (StateM σ)) : SuiteRunner (Recorder σ) where
  execute request := Noting.noted (fun _ => .requested request) (runner.execute request)
  fixtures := runner.fixtures.recorded
  log entry := Noting.silent (runner.log entry)
  clock := Noting.silent runner.clock
  fixture := runner.fixture
  baseUrl := runner.baseUrl

variable (runner : SuiteRunner (StateM σ)) (stamp : RunStamp) (suite : String)

/-- The calls of a run of units that starts in a state, with their answers. -/
def unitsTrace (units : List TestUnit) (s : σ) : List SuiteEvent :=
  ((runner.recorded.runUnits stamp suite units).run ([], s)).2.1

/-- The calls of a run of a registry that starts in a state, with their answers. -/
def trace (registry : List TestCase) (s : σ) : List SuiteEvent :=
  ((runner.recorded.run stamp suite registry).run ([], s)).2.1

/-- A recorded port answers as the port itself does and leaves the world in the same state. -/
theorem recorded_coupled : PortsCoupled (fun world s => world.2 = s) runner.recorded runner where
  create _ := Noting.noted_coupled _ _
  save _ := Noting.noted_coupled _ _
  delete _ := Noting.noted_coupled _ _
  execute _ := Noting.noted_coupled _ _
  log _ := Noting.silent_coupled _
  fixture := rfl
  baseUrl := rfl

theorem recorded_runUnits (units : List TestUnit) (world : List SuiteEvent × σ) :
    ((runner.recorded.runUnits stamp suite units).run world).1 =
      ((runner.runUnits stamp suite units).run world.2).1 :=
  (runner.recorded_coupled.runUnits (Noting.silent_coupled _) stamp suite units world _ rfl).1

theorem recorded_run (registry : List TestCase) (world : List SuiteEvent × σ) :
    ((runner.recorded.run stamp suite registry).run world).1 =
      ((runner.run stamp suite registry).run world.2).1 :=
  (runner.recorded_coupled.run (Noting.silent_coupled _) stamp suite registry world _ rfl).1

end SuiteRunner

/-- Whatever the world is like, the computation only adds to the record, and its result and the
events that it adds satisfy `post`. -/
def Emits (x : Recorder σ α) (post : α → List SuiteEvent → Prop) : Prop :=
  ∀ world, ∃ events, (x.run world).2.1 = world.1 ++ events ∧ post (x.run world).1 events

namespace Emits

variable {P : α → List SuiteEvent → Prop} {Q : β → List SuiteEvent → Prop}

theorem pure {a : α} (h : P a []) : Emits (σ := σ) (Pure.pure a) P :=
  fun world => ⟨[], (List.append_nil world.1).symm, h⟩

/-- What follows a computation is held against the events of both. -/
theorem bind {x : Recorder σ α} {f : α → Recorder σ β} (hx : Emits x P)
    (hf : ∀ a before, P a before → Emits (f a) fun b after => Q b (before ++ after)) :
    Emits (x >>= f) Q := by
  intro world
  obtain ⟨before, hbefore, ha⟩ := hx world
  obtain ⟨after, hafter, hb⟩ := hf _ _ ha (x.run world).2
  refine ⟨before ++ after, ?_, hb⟩
  rw [← List.append_assoc, ← hbefore]
  exact hafter

theorem noted {event : α → SuiteEvent} {x : StateM σ α} (h : ∀ a, P a [event a]) :
    Emits (Noting.noted (fun _ => event) x) P :=
  fun _ => ⟨[event _], rfl, h _⟩

theorem silent {x : StateM σ α} (h : ∀ a, P a []) : Emits (Noting.silent x) P :=
  fun world => ⟨[], (List.append_nil world.1).symm, h _⟩

theorem after_silent {x : StateM σ α} {f : α → Recorder σ β} (h : ∀ a, Emits (f a) Q) :
    Emits (Noting.silent x >>= f) Q := by
  refine (silent (P := fun _ events => events = []) fun _ => rfl).bind ?_
  rintro a _ rfl
  exact h a

theorem forM {f : α → Recorder σ PUnit} (hf : ∀ a, Emits (f a) fun _ events => events = [])
    (items : List α) : Emits (items.forM f) fun _ events => events = [] := by
  induction items with
  | nil => exact pure rfl
  | cons item rest ih =>
    refine (hf item).bind ?_
    rintro _ _ rfl
    exact ih

/-- A chain goes on after a call that returned. Otherwise the record ends where the call ended. -/
theorem chain {x : Recorder σ (Outcome ε α)} {next : α → Recorder σ (Outcome ε β)}
    {Q : Outcome ε β → List SuiteEvent → Prop}
    (hx : Emits x fun outcome before =>
      match outcome with
      | .returned a => Emits (next a) fun outcome' after => Q outcome' (before ++ after)
      | .failed error => Q (.failed error) before
      | .crashed crash => Q (.crashed crash) before) :
    Emits (Outcome.chain x next) Q := by
  refine hx.bind fun outcome before houtcome => ?_
  cases outcome with
  | returned a => exact houtcome
  | failed error => exact pure (by simpa using houtcome)
  | crashed crash => exact pure (by simpa using houtcome)

end Emits

end RestConformance
