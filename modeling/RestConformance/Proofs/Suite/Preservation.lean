import RestConformance.Proofs.Ensures
import RestConformance.Suite.Runner

/-!
# What runs preserve

A property of the world that every call of a run preserves is preserved by the run. The calls under
the guard of a unit stand apart, because they may need the link of the fixture.

## Main definitions

* `PortsKeep P runner` – the ports of the runner besides its executor preserve `P`.

## Main results

* `SuiteRunner.exercise_ensures` – what holds after the request of a unit;
* `PortsKeep.runUnit`, `PortsKeep.runUnits`, `PortsKeep.run` – so do units and runs, if the guarded
  part of each unit does.
-/

namespace RestConformance

variable {σ : Type}

/-- What holds behind the request of a unit, sent or not. A request whose address is rejected is not
sent, so the executor only has to deal with the others. -/
theorem SuiteRunner.exercise_ensures {P Q : σ → Prop} {runner : SuiteRunner (StateM σ)}
    (unit : TestUnit) (hrejected : ∀ s, P s → Q s)
    (hlog : Ensures P (runner.log (Http.Request.ofCase runner.baseUrl unit.testCase).sendingEntry)
      fun _ => P)
    (hexecute : (Http.Request.ofCase runner.baseUrl unit.testCase).check = .ok () →
      Ensures P (runner.execute (.ofCase runner.baseUrl unit.testCase)) fun _ => Q) :
    Ensures P (runner.exercise unit) fun _ => Q := by
  unfold exercise Http.dispatch
  refine .bind (R := fun _ => Q) ?_ fun _ => .pure fun _ hs => hs
  split
  · exact .pure hrejected
  · next hcheck =>
    exact hlog.after fun _ => (hexecute hcheck).bind fun _ => .pure fun _ hs => hs

/-- The ports of the runner preserve a property of the world, except perhaps the executor. -/
structure PortsKeep (P : σ → Prop) (runner : SuiteRunner (StateM σ)) : Prop where
  create : ∀ connectorName, Ensures P (runner.fixtures.create connectorName) fun _ => P
  save : ∀ link, Ensures P (runner.fixtures.save link) fun _ => P
  delete : ∀ name, Ensures P (runner.fixtures.delete name) fun _ => P
  log : ∀ entry, Ensures P (runner.log entry) fun _ => P
  clock : Ensures P runner.clock fun _ => P

namespace PortsKeep

variable {P : σ → Prop} {runner : SuiteRunner (StateM σ)}

theorem setUp (h : PortsKeep P runner) : Ensures P runner.setUp fun _ => P := by
  refine .chain (h.create _) (fun link => ?_) (fun _ _ hs => hs) (fun _ _ hs => hs)
  refine .chain (h.save _) (fun _ => ?_) (fun _ _ hs => hs) (fun _ _ hs => hs)
  exact (h.log _).after fun _ => .pure fun _ hs => hs

/-- What stands under the guard of a unit preserves the property if the executor does. -/
theorem guarded (h : PortsKeep P runner) (unit : TestUnit)
    (hexecute : (Http.Request.ofCase runner.baseUrl unit.testCase).check = .ok () →
      Ensures P (runner.execute (.ofCase runner.baseUrl unit.testCase)) fun _ => P) :
    Ensures P (Outcome.chain runner.setUp fun () => runner.exercise unit) fun _ => P := by
  refine .chain h.setUp (fun _ => ?_) (fun _ _ hs => hs) (fun _ _ hs => hs)
  exact SuiteRunner.exercise_ensures unit (fun _ hs => hs) (h.log _) hexecute

theorem tearDown (h : PortsKeep P runner) : Ensures P runner.tearDown fun _ => P := by
  refine .chain (h.delete _) (fun _ => ?_) (fun _ _ hs => hs) (fun _ _ hs => hs)
  exact (h.log _).after fun _ => .pure fun _ hs => hs

theorem elapsedSince (h : PortsKeep P runner) (start : UInt64) :
    Ensures P (runner.elapsedSince start) fun _ => P :=
  h.clock.after fun _ => .pure fun _ hs => hs

theorem conclude (h : PortsKeep P runner) (unit : TestUnit) (start : UInt64)
    (outcome : UnitOutcome) (teardownError : Option String) :
    Ensures P (runner.conclude unit start outcome teardownError) fun _ => P := by
  refine .after (.forM (fun _ => h.log _) _) fun _ => (h.log _).after fun _ => ?_
  exact (h.elapsedSince start).after fun _ => .pure fun _ hs => hs

section Guarded

variable (h : PortsKeep P runner)
  (hguarded : ∀ unit, Ensures P (Outcome.chain runner.setUp fun () => runner.exercise unit)
    fun _ => P)
include h hguarded

theorem runUnit (unit : TestUnit) : Ensures P (runner.runUnit unit) fun _ => P := by
  refine (h.log _).after fun _ => h.clock.after fun start => ?_
  refine (hguarded unit).after fun guarded => h.tearDown.after fun deletion => ?_
  cases deletion with
  | returned _ => exact (h.conclude unit start _ none).after fun _ => .pure fun _ hs => hs
  | failed failure =>
    exact (h.conclude unit start _ (some failure.message)).after fun _ => .pure fun _ hs => hs
  | crashed crash => exact .pure fun _ hs => hs

theorem runEach (units : List TestUnit) : Ensures P (runner.runEach units) fun _ => P := by
  induction units with
  | nil => exact .pure fun _ hs => hs
  | cons unit rest ih =>
    refine (h.runUnit hguarded unit).after fun result => ?_
    cases result with
    | error crash => exact .pure fun _ hs => hs
    | ok report => exact ih.after fun _ => .pure fun _ hs => hs

theorem runUnits (stamp : RunStamp) (suite : String) (units : List TestUnit) :
    Ensures P (runner.runUnits stamp suite units) fun _ => P := by
  refine h.clock.after fun start => (h.runEach hguarded units).after fun reports => ?_
  cases reports with
  | error crash => exact .pure fun _ hs => hs
  | ok reports =>
    refine (h.elapsedSince start).after fun _ => (h.log _).after fun _ => ?_
    exact .pure fun _ hs => hs

theorem run (stamp : RunStamp) (suite : String) (registry : List TestCase) :
    Ensures P (runner.run stamp suite registry) fun _ => P := by
  unfold SuiteRunner.run
  split
  · exact .pure fun _ hs => hs
  · exact (h.runUnits hguarded stamp suite _).after fun _ => .pure fun _ hs => hs

end Guarded

end PortsKeep

end RestConformance
