import RestConformance.Suite.FixtureClient
import RestConformance.Http.Request
import RestConformance.TestCase
import RestConformance.Report.Basic

/-!
# Running suites

Runs the units of a suite one after another. Before each unit a link is created and saved, behind
it the link is deleted, whatever happened in between. A crash anywhere between the two makes the
unit fatal and does not end the run; a crash of the deletion does end it.

## Main definitions

* `SuiteRunner` – what a run needs;
* `SuiteRunner.runUnit` – one unit with its fixture;
* `SuiteRunner.runUnits`, `SuiteRunner.run` – all units of a list, or of a registry.

## Design notes

The runner works in any monad. The outside world is in its executor, its fixture client, its log
and its clock; a state monad makes it a simulation that can be reasoned about.
-/

namespace RestConformance

/-- What a run needs. -/
structure SuiteRunner (m : Type → Type) where
  execute : Executor m
  fixtures : FixtureClient m
  log : Logger m
  /-- The milliseconds that a steady clock shows. -/
  clock : m UInt64
  fixture : LinkFixture
  baseUrl : String

/-- Why a suite is not run. -/
structure SuiteError where
  cause : ExpansionError
  deriving DecidableEq, Repr

def SuiteError.message (error : SuiteError) : String :=
  "domain error: " ++ error.cause.message

namespace UnitOutcome

/-- The outcome of a unit whose fixture and request went as `guarded` tells. -/
def ofGuarded : Outcome FixtureFailure UnitOutcome → UnitOutcome
  | .returned outcome => outcome
  | .failed failure => .fatal ("fixture setup failed: " ++ failure.message)
  | .crashed crash => .fatal ("unit panicked: " ++ crash.message)

/-- The outcome of a unit whose request ended as `answer` tells. -/
def ofAnswer (testCase : TestCase) : Outcome Http.DispatchFailure Capture →
    Outcome FixtureFailure UnitOutcome
  | .returned capture => .returned (ofValidation (testCase.validate capture))
  | .failed failure => .returned (.fatal failure.message)
  | .crashed crash => .crashed crash

/-- The sentence on a fixture that could not be taken down. -/
def teardownMessage (text : String) : String :=
  "fixture teardown failed: " ++ text

/-- The outcome of a unit after its fixture was taken down, with what went wrong in that. -/
def afterTeardown (outcome : UnitOutcome) (teardownError : Option String) : UnitOutcome :=
  match outcome, teardownError with
  -- A unit that did not pass keeps its own reason; the report has the text all the same.
  | .passed, some text => .fatal (teardownMessage text)
  | outcome, _ => outcome

end UnitOutcome

namespace SuiteRunner

/-! ### Log entries -/

/-- Tells that a unit starts. -/
def startEntry (unit : TestUnit) : LogEntry :=
  ⟨.info, "Start: " ++ unit.identifier, []⟩

/-- Tells that a unit has ended. -/
def endEntry (unit : TestUnit) (outcome : UnitOutcome) : LogEntry :=
  ⟨.info, "End: " ++ unit.identifier ++ " [" ++ outcome.label ++ "]", []⟩

/-- Tells that the link of the fixture was saved. -/
def savedEntry (fixture : LinkFixture) : LogEntry :=
  ⟨.debug, "fixture link saved", [("link", fixture.name)]⟩

/-- Tells that the link of the fixture was deleted. -/
def deletedEntry (fixture : LinkFixture) : LogEntry :=
  ⟨.debug, "fixture link deleted", [("link", fixture.name)]⟩

/-- Tells of a fixture that could not be taken down. -/
def teardownEntries (unit : TestUnit) : Option String → List LogEntry
  | some text => [⟨.warn, UnitOutcome.teardownMessage text, [("unit", unit.identifier)]⟩]
  | none => []

/-- Tells why a unit did not pass. -/
def outcomeEntries (unit : TestUnit) : UnitOutcome → List LogEntry
  | .passed => []
  | .failed failure =>
    [⟨.warn, "assertion failed: " ++ failure.message, [("unit", unit.identifier)]⟩]
  | .fatal reason => [⟨.error, "unit aborted: " ++ reason, [("unit", unit.identifier)]⟩]

/-- Tells that the run has ended. -/
def finishedEntry (report : RunReport) : LogEntry :=
  ⟨.info, "suite finished", [("suite", report.suiteName), ("total", toString report.total),
    ("passed", toString report.passed), ("failed", toString report.failed),
    ("fatal", toString report.fatal)]⟩

/-! ### Runs -/

variable {m : Type → Type} [Monad m] (runner : SuiteRunner m)

/-- Creates and saves the link of the fixture. -/
def setUp : m (Outcome FixtureFailure Unit) :=
  Outcome.chain (runner.fixtures.create runner.fixture.connectorName) fun link =>
    Outcome.chain (runner.fixtures.save (runner.fixture.applyTo link)) fun () => do
      runner.log (savedEntry runner.fixture)
      return .returned ()

/-- Sends the request of a unit and holds the response against its validator. -/
def exercise (unit : TestUnit) : m (Outcome FixtureFailure UnitOutcome) := do
  let request := Http.Request.ofCase runner.baseUrl unit.testCase
  return UnitOutcome.ofAnswer unit.testCase (← Http.dispatch runner.execute runner.log request)

/-- Deletes the link of the fixture. -/
def tearDown : m (Outcome FixtureFailure Unit) :=
  Outcome.chain (runner.fixtures.delete runner.fixture.name) fun () => do
    runner.log (deletedEntry runner.fixture)
    return .returned ()

/-- The milliseconds since the clock showed `start`. -/
def elapsedSince (start : UInt64) : m UInt64 := do
  let now ← runner.clock
  -- A clock that went back counts as one that stood still.
  return if start ≤ now then now - start else 0

/-- Ends a unit: tells how it went and makes its report. -/
def conclude (unit : TestUnit) (start : UInt64) (outcome : UnitOutcome)
    (teardownError : Option String) : m UnitReport := do
  let outcome := outcome.afterTeardown teardownError
  (teardownEntries unit teardownError ++ outcomeEntries unit outcome).forM runner.log
  runner.log (endEntry unit outcome)
  return ⟨unit.identifier, outcome, ← runner.elapsedSince start, teardownError⟩

/-- Runs one unit with its fixture. -/
def runUnit (unit : TestUnit) : m (Except Crash UnitReport) := do
  runner.log (startEntry unit)
  let start ← runner.clock
  -- A crash up to here is an outcome of the unit.
  let guarded ← Outcome.chain runner.setUp fun () => runner.exercise unit
  -- The deletion is tried whatever came before, and nothing guards it.
  match ← runner.tearDown with
  | .returned () => return .ok (← runner.conclude unit start (.ofGuarded guarded) none)
  | .failed failure =>
    return .ok (← runner.conclude unit start (.ofGuarded guarded) (some failure.message))
  | .crashed crash => return .error crash

/-- Runs units one after another, until the first crash of a deletion. -/
def runEach : List TestUnit → m (Except Crash (List UnitReport))
  | [] => return .ok []
  | unit :: rest => do
    match ← runner.runUnit unit with
    -- The reports of the units before are lost with the run.
    | .error crash => return .error crash
    | .ok report => return (← runEach rest).map (report :: ·)

/-- Runs the units of a suite. -/
def runUnits (stamp : RunStamp) (suite : String) (units : List TestUnit) :
    m (Except Crash RunReport) := do
  let start ← runner.clock
  match ← runner.runEach units with
  | .error crash => return .error crash
  | .ok reports =>
    let report := RunReport.ofUnits stamp suite reports (← runner.elapsedSince start)
    runner.log (finishedEntry report)
    return .ok report

/-- Runs the cases of a registry. -/
def run (stamp : RunStamp) (suite : String) (registry : List TestCase) :
    m (Outcome SuiteError RunReport) := do
  match expand suite registry with
  | .error error => return .failed ⟨error⟩
  | .ok units => return .ofRun (← runner.runUnits stamp suite units)

end SuiteRunner

end RestConformance
