import RestConformance.Proofs.Coupling
import RestConformance.Proofs.Except
import RestConformance.Suite.FixtureClient
import RestConformance.Suite.Runner

/-!
# Coupled runners

Two runners whose ports are coupled run alike: they give the same reports, and what relates the
states of their ports relates them still after the run.

## Main definitions

* `PortsCoupled S left right` – the runners `left` and `right` have the same fixture and server, and
  all their ports but the clock are coupled under `S`;
* `UnitReport.timeless`, `RunReport.timeless` – what a report says besides the time;
* `SuiteRunner.overRest` – the runner that has one executor for its link and its cases.

## Main results

* `PortsCoupled.run` – runners with coupled ports and clocks have the same reports;
* `PortsCoupled.runUnit_timeless`, `PortsCoupled.run_timeless` – with clocks that show other times,
  they have the same reports but for the time;
* `SuiteRunner.overRest_coupled` – runners over REST are coupled if their executors are.

## Design notes

The clock stands apart because set-up, requests and teardown do not read it: runners that differ in
the times they show are still coupled in these.
-/

namespace RestConformance

variable {σ τ : Type}

/-- The report without the time that the unit took. -/
def UnitReport.timeless (report : UnitReport) : UnitReport :=
  { report with durationMs := 0 }

/-- The report without what tells of the time: when the run started, how long it and its units took,
and the identifier of the run. -/
def RunReport.timeless (report : RunReport) : RunReport :=
  { report with
    stamp := ⟨"", ⟨0, 0⟩⟩
    units := report.units.map UnitReport.timeless
    durationMs := 0 }

/-- The counters of a report are not read off the times. -/
theorem RunReport.timeless_ofUnits (stamp : RunStamp) (suite : String) (reports : List UnitReport)
    (durationMs : UInt64) :
    (ofUnits stamp suite reports durationMs).timeless =
      ofUnits ⟨"", ⟨0, 0⟩⟩ suite (reports.map UnitReport.timeless) 0 := by
  unfold ofUnits timeless
  simp only [List.length_map, List.countP_map]
  rfl

/-- Nor is the exit code. -/
theorem RunReport.exitCode_timeless (report : RunReport) :
    report.timeless.exitCode = report.exitCode :=
  rfl

/-- What is told at the end of a run is not read off the times. -/
theorem SuiteRunner.finishedEntry_of_timeless {report report' : RunReport}
    (h : report.timeless = report'.timeless) : finishedEntry report = finishedEntry report' := by
  have hentry : ∀ report : RunReport, finishedEntry report = finishedEntry report.timeless :=
    fun _ => rfl
  rw [hentry, h, ← hentry]

/-- The runners have the same fixture and the same server, and their ports give the same answers
from states related by `S`. -/
structure PortsCoupled (S : σ → τ → Prop) (left : SuiteRunner (StateM σ))
    (right : SuiteRunner (StateM τ)) : Prop where
  create : ∀ connectorName,
    Coupled S Eq (left.fixtures.create connectorName) (right.fixtures.create connectorName)
  save : ∀ link, Coupled S Eq (left.fixtures.save link) (right.fixtures.save link)
  delete : ∀ name, Coupled S Eq (left.fixtures.delete name) (right.fixtures.delete name)
  execute : ∀ request, Coupled S Eq (left.execute request) (right.execute request)
  log : ∀ entry, Coupled S Eq (left.log entry) (right.log entry)
  fixture : left.fixture = right.fixture
  baseUrl : left.baseUrl = right.baseUrl

namespace PortsCoupled

variable {S : σ → τ → Prop} {left : SuiteRunner (StateM σ)} {right : SuiteRunner (StateM τ)}

theorem setUp (h : PortsCoupled S left right) : Coupled S Eq left.setUp right.setUp := by
  unfold SuiteRunner.setUp
  rw [h.fixture]
  refine (h.create _).chain fun link => (h.save _).chain fun () => ?_
  exact (h.log _).bind_eq fun _ => .pure rfl

theorem exercise (h : PortsCoupled S left right) (unit : TestUnit) :
    Coupled S Eq (left.exercise unit) (right.exercise unit) := by
  unfold SuiteRunner.exercise Http.dispatch
  rw [h.baseUrl]
  refine .bind_eq ?_ fun _ => .pure rfl
  split
  · exact .pure rfl
  · exact (h.log _).bind_eq fun _ => (h.execute _).bind_eq fun _ => .pure rfl

theorem tearDown (h : PortsCoupled S left right) : Coupled S Eq left.tearDown right.tearDown := by
  unfold SuiteRunner.tearDown
  rw [h.fixture]
  exact (h.delete _).chain fun () => (h.log _).bind_eq fun _ => .pure rfl

section Clock

variable (h : PortsCoupled S left right) (hclock : Coupled S Eq left.clock right.clock)

include h hclock

theorem conclude (unit : TestUnit) (start : UInt64) (outcome : UnitOutcome)
    (teardownError : Option String) :
    Coupled S Eq (left.conclude unit start outcome teardownError)
      (right.conclude unit start outcome teardownError) := by
  refine (Coupled.forM h.log _).bind_eq fun _ => (h.log _).bind_eq fun _ => ?_
  exact .bind_eq (hclock.bind_eq fun _ => .pure rfl) fun _ => .pure rfl

theorem runUnit (unit : TestUnit) : Coupled S Eq (left.runUnit unit) (right.runUnit unit) := by
  refine (h.log _).bind_eq fun _ => hclock.bind_eq fun start => ?_
  refine (h.setUp.chain fun _ => h.exercise unit).bind_eq fun guarded => ?_
  refine h.tearDown.bind_eq fun deletion => ?_
  cases deletion with
  | returned _ => exact (h.conclude hclock unit start _ _).bind_eq fun _ => .pure rfl
  | failed failure => exact (h.conclude hclock unit start _ _).bind_eq fun _ => .pure rfl
  | crashed crash => exact .pure rfl

theorem runEach (units : List TestUnit) :
    Coupled S Eq (left.runEach units) (right.runEach units) := by
  induction units with
  | nil => exact .pure rfl
  | cons unit rest ih =>
    refine (h.runUnit hclock unit).bind_eq fun result => ?_
    cases result with
    | error crash => exact .pure rfl
    | ok report => exact ih.bind_eq fun _ => .pure rfl

theorem runUnits (stamp : RunStamp) (suite : String) (units : List TestUnit) :
    Coupled S Eq (left.runUnits stamp suite units) (right.runUnits stamp suite units) := by
  refine hclock.bind_eq fun start => (h.runEach hclock units).bind_eq fun result => ?_
  cases result with
  | error crash => exact .pure rfl
  | ok reports =>
    refine .bind_eq (hclock.bind_eq fun _ => .pure rfl) fun _ => ?_
    exact (h.log _).bind_eq fun _ => .pure rfl

theorem run (stamp : RunStamp) (suite : String) (registry : List TestCase) :
    Coupled S Eq (left.run stamp suite registry) (right.run stamp suite registry) := by
  unfold SuiteRunner.run
  split
  · exact .pure rfl
  · exact (h.runUnits hclock stamp suite _).bind_eq fun _ => .pure rfl

end Clock

section Timeless

variable (h : PortsCoupled S left right)
  (hclock : Coupled S (fun _ _ => True) left.clock right.clock)

include h hclock

theorem conclude_timeless (unit : TestUnit) (start start' : UInt64) (outcome : UnitOutcome)
    (teardownError : Option String) :
    Coupled S (fun report report' => report.timeless = report'.timeless)
      (left.conclude unit start outcome teardownError)
      (right.conclude unit start' outcome teardownError) := by
  refine (Coupled.forM h.log _).bind_eq fun _ => (h.log _).bind_eq fun _ => ?_
  refine .bind (R := fun _ _ => True) (hclock.bind fun _ _ _ => .pure trivial) fun _ _ _ => ?_
  exact .pure rfl

/-- The clock decides nothing but the time in the report. -/
theorem runUnit_timeless (unit : TestUnit) :
    Coupled S (fun result result' => result.map UnitReport.timeless =
      result'.map UnitReport.timeless) (left.runUnit unit) (right.runUnit unit) := by
  refine (h.log _).bind_eq fun _ => hclock.bind fun start start' _ => ?_
  refine (h.setUp.chain fun _ => h.exercise unit).bind_eq fun guarded => ?_
  refine h.tearDown.bind_eq fun deletion => ?_
  cases deletion with
  | returned _ =>
    refine (h.conclude_timeless hclock unit start start' _ _).bind fun _ _ hreport => ?_
    exact .pure (congrArg Except.ok hreport)
  | failed failure =>
    refine (h.conclude_timeless hclock unit start start' _ _).bind fun _ _ hreport => ?_
    exact .pure (congrArg Except.ok hreport)
  | crashed crash => exact .pure rfl

theorem runEach_timeless (units : List TestUnit) :
    Coupled S (ExceptRel fun reports reports' =>
      reports.map UnitReport.timeless = reports'.map UnitReport.timeless)
      (left.runEach units) (right.runEach units) := by
  induction units with
  | nil => exact .pure (.ok rfl)
  | cons unit rest ih =>
    refine (h.runUnit_timeless hclock unit).bind fun result result' hresult => ?_
    cases ExceptRel.of_map_eq hresult with
    | error crash => exact .pure (.error crash)
    | ok hreport =>
      refine ih.bind fun reports reports' hreports => .pure ?_
      cases hreports with
      | error crash => exact .error crash
      | ok hreports => exact .ok (List.cons_eq_cons.2 ⟨hreport, hreports⟩)

theorem runUnits_timeless (stamp stamp' : RunStamp) (suite : String) (units : List TestUnit) :
    Coupled S (ExceptRel fun report report' => report.timeless = report'.timeless)
      (left.runUnits stamp suite units) (right.runUnits stamp' suite units) := by
  refine hclock.bind fun start start' _ => (h.runEach_timeless hclock units).bind ?_
  intro result result' hresult
  cases hresult with
  | error crash => exact .pure (.error crash)
  | @ok reports reports' hreports =>
    refine .bind (R := fun _ _ => True) (hclock.bind fun _ _ _ => .pure trivial) ?_
    intro durationMs durationMs' _
    have hreport : (RunReport.ofUnits stamp suite reports durationMs).timeless =
        (RunReport.ofUnits stamp' suite reports' durationMs').timeless := by
      rw [RunReport.timeless_ofUnits, RunReport.timeless_ofUnits, hreports]
    have hentry := SuiteRunner.finishedEntry_of_timeless hreport
    dsimp only
    rw [hentry]
    exact (h.log _).bind_eq fun _ => .pure (.ok hreport)

/-- The clock and the stamp decide nothing but the times and the identifier in the report. -/
theorem run_timeless (stamp stamp' : RunStamp) (suite : String) (registry : List TestCase) :
    Coupled S (Outcome.Rel fun report report' => report.timeless = report'.timeless)
      (left.run stamp suite registry) (right.run stamp' suite registry) := by
  unfold SuiteRunner.run
  split
  · exact .pure (.failed _)
  · refine (h.runUnits_timeless hclock stamp stamp' suite _).bind fun result result' hresult => ?_
    cases hresult with
    | error crash => exact .pure (.crashed crash)
    | ok hreport => exact .pure (.returned hreport)

end Timeless

end PortsCoupled

/-! ### Runners over REST -/

/-- The runner that manages the link on its server with the executor of its cases. -/
def SuiteRunner.overRest {m : Type → Type} [Monad m] (execute : Executor m) (log : Logger m)
    (clock : m UInt64) (fixture : LinkFixture) (baseUrl : String) : SuiteRunner m where
  execute := execute
  fixtures := restFixtureClient execute log baseUrl
  log := log
  clock := clock
  fixture := fixture
  baseUrl := baseUrl

section OverRest

variable {S : σ → τ → Prop} {execute : Executor (StateM σ)} {execute' : Executor (StateM τ)}
  {log : Logger (StateM σ)} {log' : Logger (StateM τ)}
  (hexecute : ∀ request, Coupled S Eq (execute request) (execute' request))
  (hlog : ∀ entry, Coupled S Eq (log entry) (log' entry))

include hexecute hlog

/-- An operation of a fixture client over REST reads the answer to one request. -/
theorem RestFixtureClient.operation_coupled {α : Type} (request : Http.Request)
    (read : Outcome FixtureFailure Capture → Outcome FixtureFailure α) :
    Coupled S Eq (do return read (← send execute log request))
      (do return read (← send execute' log' request)) := by
  refine .bind_eq ?_ fun _ => .pure rfl
  exact (hlog _).bind_eq fun _ => (hexecute request).bind_eq fun _ => .pure rfl

/-- Runners over REST have coupled ports if their executors and logs are coupled. -/
theorem SuiteRunner.overRest_coupled (clock : StateM σ UInt64) (clock' : StateM τ UInt64)
    (fixture : LinkFixture) {baseUrl baseUrl' : String} (hbase : baseUrl = baseUrl') :
    PortsCoupled S (overRest execute log clock fixture baseUrl)
      (overRest execute' log' clock' fixture baseUrl') := by
  subst hbase
  exact {
    create := fun _ => RestFixtureClient.operation_coupled hexecute hlog _ _
    save := fun _ => RestFixtureClient.operation_coupled hexecute hlog _ _
    delete := fun _ => RestFixtureClient.operation_coupled hexecute hlog _ _
    execute := hexecute
    log := hlog
    fixture := rfl
    baseUrl := rfl }

end OverRest

end RestConformance
