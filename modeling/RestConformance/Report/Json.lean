import RestConformance.Report.Basic
import RestConformance.Json.Basic

/-!
# Reports in JSON

The JSON forms of outcomes and of the reports of units and runs. An outcome is a status and, unless
the unit passed, a detail. What went wrong in taking down a fixture is left out where nothing did.

## Main definitions

* `UnitOutcome.toJson`, `UnitReport.toJson`, `RunReport.toJson` – the forms that are written;
* `UnitOutcome.ofJson?`, `UnitReport.ofJson?`, `RunReport.ofJson?` – what is read.
-/

namespace RestConformance

namespace UnitOutcome

def toJson : UnitOutcome → Json
  | .passed => .object [("status", .string "passed")]
  | .failed failure => .object [("status", .string "failed"), ("detail", failure.toJson)]
  | .fatal reason => .object [("status", .string "fatal"), ("detail", .string reason)]

/-- Reads an outcome from its status and its detail. A unit that passed has no detail. -/
def ofStatus? (readFailure : Json → Option AssertionFailure) (status : Json)
    (detail : Option Json) : Option UnitOutcome := do
  match ← status.string?, detail with
  | "passed", none | "passed", some .null => return .passed
  | "failed", some detail => return .failed (← readFailure detail)
  | "fatal", some detail => return .fatal (← detail.string?)
  | _, _ => none

/-- Reads an outcome. In an object, the kind of a failure may be given by number. -/
def ofJson? : Json → Option UnitOutcome
  | .object members => do
    ofStatus? AssertionFailure.ofNumberedJson? (← Json.lookup "status" members)
      (Json.lookup "detail" members)
  | .array [status, detail] => ofStatus? AssertionFailure.ofJson? status (some detail)
  | _ => none

end UnitOutcome

namespace UnitReport

def toJson (report : UnitReport) : Json :=
  .object ([("identifier", .string report.identifier), ("outcome", report.outcome.toJson),
    ("duration_ms", .integer report.durationMs.toNat)] ++
    match report.teardownError with
    | some text => [("teardown_error", .string text)]
    | none => [])

def ofJson? (value : Json) : Option UnitReport := do
  match ← value.fields? ["identifier", "outcome", "duration_ms", "teardown_error"] with
  | [identifier, outcome, durationMs, teardownError] =>
    return ⟨← Json.required? Json.string? identifier, ← Json.required? UnitOutcome.ofJson? outcome,
      ← Json.required? Json.word64? durationMs, ← Json.optional? Json.string? teardownError⟩
  | _ => none

/-- Reads a list of reports of units. -/
def listOfJson? : Json → Option (List UnitReport)
  | .array items => items.mapM ofJson?
  | _ => none

end UnitReport

namespace RunReport

def toJson (report : RunReport) : Json :=
  .object [("run_id", .string report.stamp.runId), ("suite_name", .string report.suiteName),
    ("started_at", .string report.stamp.startedAt.write),
    ("units", .array (report.units.map UnitReport.toJson)), ("total", .integer report.total),
    ("passed", .integer report.passed), ("failed", .integer report.failed),
    ("fatal", .integer report.fatal), ("duration_ms", .integer report.durationMs.toNat)]

/-- Reads the report of a run. The counters are taken as they are written. -/
def ofJson? (value : Json) : Option RunReport := do
  match ← value.requiredFields? ["run_id", "suite_name", "started_at", "units", "total", "passed",
    "failed", "fatal", "duration_ms"] with
  | [runId, suiteName, startedAt, units, total, passed, failed, fatal, durationMs] =>
    return ⟨⟨← runId.string?, ← startedAt.string?.bind Instant.read?⟩, ← suiteName.string?,
      ← UnitReport.listOfJson? units, ← total.count?, ← passed.count?, ← failed.count?,
      ← fatal.count?, ← durationMs.word64?⟩
  | _ => none

end RunReport

end RestConformance
