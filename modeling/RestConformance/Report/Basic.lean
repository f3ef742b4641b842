import RestConformance.Assertion
import RestConformance.Report.RunId

/-!
# Reports

How a unit of a run ends, where it is kept apart that the server answers otherwise than expected and
that the unit cannot be carried out; and the report of a run, with one entry for each unit, in the
order in which the units ran, and counters of their outcomes.

## Main definitions

* `UnitOutcome` – the three ends of a unit;
* `UnitOutcome.ofValidation` – the outcome that a validator decides;
* `UnitReport`, `RunReport` – the reports of a unit and of a run;
* `RunReport.ofUnits` – the report of some entries;
* `RunReport.exitCode` – what the program that makes the run ends with.
-/

namespace RestConformance

/-! ### Outcomes -/

/-- How a unit ends. -/
inductive UnitOutcome where
  | passed
  | failed (failure : AssertionFailure)
  /-- The unit could not be carried out. -/
  | fatal (reason : String)
  deriving DecidableEq, Repr

namespace UnitOutcome

/-- Whether the unit passed. -/
def isPassed : UnitOutcome → Bool
  | .passed => true
  | _ => false

/-- Whether an assertion failed. -/
def isFailed : UnitOutcome → Bool
  | .failed _ => true
  | _ => false

/-- Whether the unit could not be carried out. -/
def isFatal : UnitOutcome → Bool
  | .fatal _ => true
  | _ => false

/-- The word for an outcome in log entries. -/
def label : UnitOutcome → String
  | .passed => "PASSED"
  | .failed _ => "FAILED"
  | .fatal _ => "FATAL"

/-- The outcome that a validator decides. -/
def ofValidation : Outcome AssertionFailure Unit → UnitOutcome
  | .returned () => .passed
  | .failed failure => .failed failure
  | .crashed crash => .fatal ("validator panicked: " ++ crash.message)

end UnitOutcome

/-! ### Entries and counters -/

/-- The report of one unit. -/
structure UnitReport where
  identifier : String
  outcome : UnitOutcome
  /-- How many milliseconds it took, with the fixture. -/
  durationMs : UInt64
  /-- What went wrong when the fixture was taken down. -/
  teardownError : Option String
  deriving DecidableEq, Repr

/-- The report of a run. -/
structure RunReport where
  /-- What the run is known by. -/
  stamp : RunStamp
  suiteName : String
  units : List UnitReport
  total : Nat
  passed : Nat
  failed : Nat
  fatal : Nat
  /-- How many milliseconds the run took. -/
  durationMs : UInt64
  deriving DecidableEq, Repr

namespace RunReport

/-- The report of some units. -/
def ofUnits (stamp : RunStamp) (suiteName : String) (units : List UnitReport)
    (durationMs : UInt64) : RunReport where
  stamp := stamp
  suiteName := suiteName
  units := units
  total := units.length
  passed := units.countP (·.outcome.isPassed)
  failed := units.countP (·.outcome.isFailed)
  fatal := units.countP (·.outcome.isFatal)
  durationMs := durationMs

/-- Whether no unit failed and none was given up. -/
def allPassed (report : RunReport) : Bool :=
  report.failed == 0 && report.fatal == 0

/-- The share of units that passed, in percent. Without units it is all of them. -/
def passRate (report : RunReport) : Float :=
  if report.total = 0 then 100.0
  else report.passed.toUInt64.toFloat / report.total.toUInt64.toFloat * 100.0

/-- What a program that makes the run ends with: 2 if a unit could not be carried out, 1 if an
assertion failed, 0 otherwise. -/
def exitCode (report : RunReport) : UInt8 :=
  -- A unit that was given up outweighs any that failed.
  if 0 < report.fatal then 2 else if 0 < report.failed then 1 else 0

end RunReport

end RestConformance
