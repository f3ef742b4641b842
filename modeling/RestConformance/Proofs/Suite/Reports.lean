import RestConformance.Proofs.Suite.History
import RestConformance.Proofs.Suite.Script
import RestConformance.Registry

/-!
# Reports of runs

A run in which no deletion crashes reports on every unit, in order, and the answers of the ports
decide each report. Creations, savings and requests may fail and crash, and so may validators.

## Main definitions

* `answeredCalls` – the calls of a unit whose request was answered, up to its teardown.

## Main results

* `UnitCourse.outcome_unique` – the calls of a unit decide its outcome;
* `UnitCourse.failed_iff` – an assertion fails only on a captured response;
* `SuiteRunner.runUnits_reports` – the reports of a run in which no deletion crashes.
-/

namespace RestConformance

section Rules

variable {fixture : LinkFixture} {baseUrl : String} {testCase : TestCase}
  {calls : List SuiteEvent} {outcome : UnitOutcome}

/-- The calls of a unit up to its teardown, where the link was saved and a response captured. -/
def answeredCalls (fixture : LinkFixture) (baseUrl : String) (testCase : TestCase) (link : Link)
    (capture : Capture) : List SuiteEvent :=
  [.created fixture.connectorName (.returned link), .saved (fixture.applyTo link) (.returned ()),
    .requested (.ofCase baseUrl testCase) (.returned capture)]

/-- No two rules for a unit have the same calls and lead to different outcomes. -/
theorem UnitCourse.outcome_unique {outcome' : UnitOutcome}
    (h : UnitCourse fixture baseUrl testCase calls outcome)
    (h' : UnitCourse fixture baseUrl testCase calls outcome') : outcome = outcome' := by
  cases h <;> cases h' <;> simp_all

/-- The outcome of a unit whose request was answered is that of the validator. -/
theorem UnitCourse.outcome_of_answered {link : Link} {capture : Capture}
    (h : UnitCourse fixture baseUrl testCase (answeredCalls fixture baseUrl testCase link capture)
      outcome) :
    outcome = .ofValidation (testCase.validate capture) := by
  cases h with
  | validatorCrashed _ _ _ _ hvalidate => rw [hvalidate]; rfl
  | failed _ _ _ _ hvalidate => rw [hvalidate]; rfl
  | passed _ _ _ hvalidate => rw [hvalidate]; rfl

/-- A unit has a failed assertion just if a response was captured in which its validator found
it. -/
theorem UnitCourse.failed_iff (h : UnitCourse fixture baseUrl testCase calls outcome)
    (failure : AssertionFailure) :
    outcome = .failed failure ↔ ∃ link capture,
      calls = answeredCalls fixture baseUrl testCase link capture ∧
      testCase.validate capture = .failed failure := by
  constructor
  · rintro rfl
    cases h with
    | failed link capture _ _ hvalidate => exact ⟨link, capture, rfl, hvalidate⟩
  · rintro ⟨link, capture, rfl, hvalidate⟩
    rw [h.outcome_of_answered, hvalidate]
    rfl

/-- A unit passes up to its teardown just if a response was captured that its validator took. -/
theorem UnitCourse.passed_iff (h : UnitCourse fixture baseUrl testCase calls outcome) :
    outcome = .passed ↔ ∃ link capture,
      calls = answeredCalls fixture baseUrl testCase link capture ∧
      testCase.validate capture = .returned () := by
  constructor
  · rintro rfl
    cases h with
    | passed link capture _ hvalidate => exact ⟨link, capture, rfl, hvalidate⟩
  · rintro ⟨link, capture, rfl, hvalidate⟩
    rw [h.outcome_of_answered, hvalidate]
    rfl

end Rules

namespace SuiteRunner

variable {σ : Type} (runner : SuiteRunner (StateM σ)) (stamp : RunStamp) (suite : String)

/-- If no deletion crashes, a run of units reports on each of them, in order. A unit's calls decide
its outcome: an assertion has failed just if the validator found it in a captured response, and the
unit passes just if the validator took the response. The answer to the deletion decides what becomes
of the outcome in the report. -/
theorem runUnits_reports (units : List TestUnit) (s : σ)
    (hdeletions : ∀ event ∈ runner.unitsTrace stamp suite units s,
      event.isCrashedDeletion = false) :
    ∃ (histories : List (UnitHistory runner.fixture runner.baseUrl)) (durationMs : UInt64),
      histories.map (·.unit) = units ∧
      runner.unitsTrace stamp suite units s = histories.flatMap (·.events) ∧
      ((runner.runUnits stamp suite units).run s).1 =
        .ok (.ofUnits stamp suite (histories.map (·.report)) durationMs) ∧
      ∀ history ∈ histories,
        (∀ outcome, UnitCourse runner.fixture runner.baseUrl history.unit.testCase history.calls
          outcome → outcome = history.outcome) ∧
        (∀ failure, history.outcome = .failed failure ↔ ∃ link capture,
          history.calls = answeredCalls runner.fixture runner.baseUrl history.unit.testCase link
            capture ∧
          history.unit.testCase.validate capture = .failed failure) ∧
        (history.outcome = .passed ↔ ∃ link capture,
          history.calls = answeredCalls runner.fixture runner.baseUrl history.unit.testCase link
            capture ∧
          history.unit.testCase.validate capture = .returned ()) := by
  rcases runner.runUnits_cases stamp suite units s with
    ⟨histories, durationMs, hunits, htrace, hresult⟩ | ⟨histories, loss, rest, _, htrace, _⟩
  · refine ⟨histories, durationMs, hunits, htrace, hresult, fun history _ => ⟨?_, ?_, ?_⟩⟩
    · exact fun outcome houtcome => houtcome.outcome_unique history.course
    · exact history.course.failed_iff
    · exact history.course.passed_iff
  · rw [htrace] at hdeletions
    exact absurd hdeletions loss.not_clean

/-- Four units of which none passes: of the first and the third the teardown fails, for the second
the creation crashes, and the validator of the fourth crashes. -/
def mixedUnits : List TestUnit :=
  [.ofCase "S" (Registry.reading "First" "version" (.status 200)),
    .ofCase "S" (Registry.reading "Second" "version" (.status 200)),
    .ofCase "S" (Registry.reading "Third" "version" (.status 200)),
    .ofCase "S" (Registry.reading "Fourth" "version" (.crash ⟨some "gone"⟩))]

/-- The script for these units. -/
def mixedScript : SuiteScript where
  creations := [.returned (.ofConnector "generic"), .crashed ⟨none⟩]
  responses := [.returned (.ofBody 200 "1.0"), .returned (.ofBody 404 "")]
  deletions := [.failed (.serialization "lost"), .returned (), .failed (.serialization "lost")]

/-- A run with failures and crashes everywhere but in a deletion. -/
theorem runUnits_reports_mixed :
    (∃ (histories : List (UnitHistory rehearsal.fixture rehearsal.baseUrl)) (durationMs : UInt64),
      histories.map (·.unit) = mixedUnits ∧
      ((rehearsal.runUnits .rehearsal "S" mixedUnits).run mixedScript).1 =
        .ok (.ofUnits .rehearsal "S" (histories.map (·.report)) durationMs)) ∧
    (match ((rehearsal.runUnits .rehearsal "S" mixedUnits).run mixedScript).1 with
      | .ok report => report.units.map fun unit => (unit.outcome, unit.teardownError)
      | .error _ => []) =
      [(.fatal "fixture teardown failed: serialization error: lost",
          some "serialization error: lost"),
        (.fatal "unit panicked: unknown panic", none),
        (.failed (.statusMismatch 200 404), some "serialization error: lost"),
        (.fatal "validator panicked: gone", none)] := by
  obtain ⟨histories, durationMs, hunits, _, hresult, _⟩ :=
    runUnits_reports rehearsal .rehearsal "S" mixedUnits mixedScript (by decide +kernel)
  exact ⟨⟨histories, durationMs, hunits, hresult⟩, by decide +kernel⟩

end SuiteRunner

end RestConformance
