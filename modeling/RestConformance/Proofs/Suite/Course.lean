import RestConformance.Proofs.Suite.Recording

/-!
# The course of a run

The rules by which the answers of the ports decide what a run does next and what it reports. They
are given as relations between what is recorded and what is reported, one rule for each way in which
a unit can go, and every run of a runner follows them.

## Main definitions

* `UnitCourse` – the calls of a unit up to its teardown and the outcome that they lead to;
* `UnitEnd` – the answer to the teardown and the report of the unit;
* `UnitRun`, `SuiteRun` – the record of a unit, and of units one after another.

## Main results

* `SuiteRunner.runUnit_emits`, `SuiteRunner.runEach_emits` – a unit, and a run, follow the rules;
* `SuiteRunner.runUnits_follows` – the same for runs without a record of their own;
* `SuiteRunner.trace_of_ok`, `SuiteRunner.run_of_expand` – the calls and the report of a registry
  are those of its units.
-/

namespace RestConformance

section Rules

variable (fixture : LinkFixture) (baseUrl : String)

section

variable (testCase : TestCase)

/-- The calls of a unit up to its teardown, with their answers, and the outcome that they lead
to. -/
inductive UnitCourse : List SuiteEvent → UnitOutcome → Prop where
  | createFailed (failure : FixtureFailure) :
    UnitCourse [.created fixture.connectorName (.failed failure)]
      (.fatal ("fixture setup failed: " ++ failure.message))
  | createCrashed (crash : Crash) :
    UnitCourse [.created fixture.connectorName (.crashed crash)]
      (.fatal ("unit panicked: " ++ crash.message))
  | saveFailed (link : Link) (failure : FixtureFailure) :
    UnitCourse [.created fixture.connectorName (.returned link),
        .saved (fixture.applyTo link) (.failed failure)]
      (.fatal ("fixture setup failed: " ++ failure.message))
  | saveCrashed (link : Link) (crash : Crash) :
    UnitCourse [.created fixture.connectorName (.returned link),
        .saved (fixture.applyTo link) (.crashed crash)]
      (.fatal ("unit panicked: " ++ crash.message))
  | rejected (link : Link) (failure : Http.DispatchFailure)
    (hcheck : (Http.Request.ofCase baseUrl testCase).check = .error failure) :
    UnitCourse [.created fixture.connectorName (.returned link),
        .saved (fixture.applyTo link) (.returned ())]
      (.fatal failure.message)
  | requestFailed (link : Link) (failure : Http.Failure)
    (hcheck : (Http.Request.ofCase baseUrl testCase).check = .ok ()) :
    UnitCourse [.created fixture.connectorName (.returned link),
        .saved (fixture.applyTo link) (.returned ()),
        .requested (.ofCase baseUrl testCase) (.failed failure)]
      (.fatal (Http.DispatchFailure.request failure).message)
  | requestCrashed (link : Link) (crash : Crash)
    (hcheck : (Http.Request.ofCase baseUrl testCase).check = .ok ()) :
    UnitCourse [.created fixture.connectorName (.returned link),
        .saved (fixture.applyTo link) (.returned ()),
        .requested (.ofCase baseUrl testCase) (.crashed crash)]
      (.fatal ("unit panicked: " ++ crash.message))
  | validatorCrashed (link : Link) (capture : Capture) (crash : Crash)
    (hcheck : (Http.Request.ofCase baseUrl testCase).check = .ok ())
    (hvalidate : testCase.validate capture = .crashed crash) :
    UnitCourse [.created fixture.connectorName (.returned link),
        .saved (fixture.applyTo link) (.returned ()),
        .requested (.ofCase baseUrl testCase) (.returned capture)]
      (.fatal ("validator panicked: " ++ crash.message))
  | failed (link : Link) (capture : Capture) (failure : AssertionFailure)
    (hcheck : (Http.Request.ofCase baseUrl testCase).check = .ok ())
    (hvalidate : testCase.validate capture = .failed failure) :
    UnitCourse [.created fixture.connectorName (.returned link),
        .saved (fixture.applyTo link) (.returned ()),
        .requested (.ofCase baseUrl testCase) (.returned capture)]
      (.failed failure)
  | passed (link : Link) (capture : Capture)
    (hcheck : (Http.Request.ofCase baseUrl testCase).check = .ok ())
    (hvalidate : testCase.validate capture = .returned ()) :
    UnitCourse [.created fixture.connectorName (.returned link),
        .saved (fixture.applyTo link) (.returned ()),
        .requested (.ofCase baseUrl testCase) (.returned capture)]
      .passed

end

/-- The answer to the teardown of a unit with an outcome, and what the unit leaves: its report, or
the crash of the teardown. -/
inductive UnitEnd (unit : TestUnit) (outcome : UnitOutcome) :
    Outcome FixtureFailure Unit → Except Crash UnitReport → Prop where
  | clean (durationMs : UInt64) :
    UnitEnd unit outcome (.returned ()) (.ok ⟨unit.identifier, outcome, durationMs, none⟩)
  | spoiled (failure : FixtureFailure) (durationMs : UInt64) (hpassed : outcome = .passed) :
    UnitEnd unit outcome (.failed failure) (.ok ⟨unit.identifier,
      .fatal ("fixture teardown failed: " ++ failure.message), durationMs, some failure.message⟩)
  | kept (failure : FixtureFailure) (durationMs : UInt64) (hpassed : outcome ≠ .passed) :
    UnitEnd unit outcome (.failed failure)
      (.ok ⟨unit.identifier, outcome, durationMs, some failure.message⟩)
  | lost (crash : Crash) :
    UnitEnd unit outcome (.crashed crash) (.error crash)

/-- The record of a unit: its course, and the deletion of the link as the last call. -/
inductive UnitRun (unit : TestUnit) : List SuiteEvent → Except Crash UnitReport → Prop where
  | intro {calls : List SuiteEvent} {outcome : UnitOutcome} {deletion : Outcome FixtureFailure Unit}
    {result : Except Crash UnitReport}
    (hcourse : UnitCourse fixture baseUrl unit.testCase calls outcome)
    (hend : UnitEnd unit outcome deletion result) :
    UnitRun unit (calls ++ [.deleted fixture.name deletion]) result

/-- The records of units that run one after another, and what they leave. A crash of a teardown is
the end of it. -/
inductive SuiteRun :
    List TestUnit → List (List SuiteEvent) → Except Crash (List UnitReport) → Prop where
  | done : SuiteRun [] [] (.ok [])
  | broken {unit : TestUnit} {rest : List TestUnit} {block : List SuiteEvent} {crash : Crash}
    (hunit : UnitRun fixture baseUrl unit block (.error crash)) :
    SuiteRun (unit :: rest) [block] (.error crash)
  | next {unit : TestUnit} {rest : List TestUnit} {block : List SuiteEvent}
    {blocks : List (List SuiteEvent)} {report : UnitReport}
    {result : Except Crash (List UnitReport)}
    (hunit : UnitRun fixture baseUrl unit block (.ok report))
    (hrest : SuiteRun rest blocks result) :
    SuiteRun (unit :: rest) (block :: blocks) (result.map (report :: ·))

end Rules

namespace SuiteRunner

variable {σ : Type} (runner : SuiteRunner (StateM σ))

/-! ### Units -/

theorem setUp_emits {Q : Outcome FixtureFailure Unit → List SuiteEvent → Prop}
    (hcreateFailed : ∀ failure,
      Q (.failed failure) [.created runner.fixture.connectorName (.failed failure)])
    (hcreateCrashed : ∀ crash,
      Q (.crashed crash) [.created runner.fixture.connectorName (.crashed crash)])
    (hsaveFailed : ∀ link failure,
      Q (.failed failure) [.created runner.fixture.connectorName (.returned link),
        .saved (runner.fixture.applyTo link) (.failed failure)])
    (hsaveCrashed : ∀ link crash,
      Q (.crashed crash) [.created runner.fixture.connectorName (.returned link),
        .saved (runner.fixture.applyTo link) (.crashed crash)])
    (hsaved : ∀ link,
      Q (.returned ()) [.created runner.fixture.connectorName (.returned link),
        .saved (runner.fixture.applyTo link) (.returned ())]) :
    Emits runner.recorded.setUp Q := by
  refine .chain (.noted fun created => ?_)
  cases created with
  | failed failure => exact hcreateFailed failure
  | crashed crash => exact hcreateCrashed crash
  | returned link =>
    refine .chain (.noted fun saved => ?_)
    cases saved with
    | failed failure => exact hsaveFailed link failure
    | crashed crash => exact hsaveCrashed link crash
    | returned _ => exact .after_silent fun _ => .pure (hsaved link)

theorem dispatch_emits (request : Http.Request)
    {Q : Outcome Http.DispatchFailure Capture → List SuiteEvent → Prop}
    (hrejected : ∀ failure, request.check = .error failure → Q (.failed failure) [])
    (hsent : request.check = .ok () → ∀ answer,
      Q (answer.mapError .request) [.requested request answer]) :
    Emits (Http.dispatch runner.recorded.execute runner.recorded.log request) Q := by
  unfold Http.dispatch
  cases hcheck : request.check with
  | error failure => exact .pure (hrejected failure hcheck)
  | ok _ =>
    refine .after_silent fun _ => ?_
    refine (Emits.noted (P := fun a events => events = [.requested request a]) fun _ => rfl).bind ?_
    rintro answer _ rfl
    exact .pure (hsent hcheck answer)

/-- A unit whose link is saved goes on as the rules for saved links say. -/
theorem exercise_emits (unit : TestUnit) (link : Link) :
    Emits (runner.recorded.exercise unit) fun guarded after =>
      UnitCourse runner.fixture runner.baseUrl unit.testCase
        ([.created runner.fixture.connectorName (.returned link),
          .saved (runner.fixture.applyTo link) (.returned ())] ++ after)
        (.ofGuarded guarded) := by
  refine (runner.dispatch_emits _ (Q := fun answer after =>
    UnitCourse runner.fixture runner.baseUrl unit.testCase
      ([.created runner.fixture.connectorName (.returned link),
        .saved (runner.fixture.applyTo link) (.returned ())] ++ after)
      (.ofGuarded (UnitOutcome.ofAnswer unit.testCase answer))) ?_ ?_).bind ?_
  · intro failure hcheck
    exact .rejected link failure hcheck
  · intro hcheck answer
    cases answer with
    | failed failure => exact .requestFailed link failure hcheck
    | crashed crash => exact .requestCrashed link crash hcheck
    | returned capture =>
      show UnitCourse _ _ _ _ (.ofValidation (unit.testCase.validate capture))
      cases hvalidate : unit.testCase.validate capture with
      | returned _ => exact .passed link capture hcheck hvalidate
      | failed failure => exact .failed link capture failure hcheck hvalidate
      | crashed crash => exact .validatorCrashed link capture crash hcheck hvalidate
  · intro answer events hcourse
    exact .pure (by simpa using hcourse)

/-- What stands under the guard of a unit follows the rules. -/
theorem guarded_emits (unit : TestUnit) :
    Emits (Outcome.chain runner.recorded.setUp fun () => runner.recorded.exercise unit)
      fun guarded calls =>
        UnitCourse runner.fixture runner.baseUrl unit.testCase calls (.ofGuarded guarded) :=
  .chain (runner.setUp_emits .createFailed .createCrashed .saveFailed .saveCrashed
    (runner.exercise_emits unit))

theorem tearDown_emits :
    Emits runner.recorded.tearDown fun deletion events =>
      events = [.deleted runner.fixture.name deletion] := by
  refine .chain (.noted fun deletion => ?_)
  cases deletion with
  | failed failure => rfl
  | crashed crash => rfl
  | returned _ => exact .after_silent fun _ => .pure rfl

theorem conclude_emits (unit : TestUnit) (start : UInt64) (outcome : UnitOutcome)
    (teardownError : Option String) :
    Emits (runner.recorded.conclude unit start outcome teardownError) fun report events =>
      events = [] ∧ ∃ durationMs, report =
        ⟨unit.identifier, outcome.afterTeardown teardownError, durationMs, teardownError⟩ := by
  refine (Emits.forM (fun _ => .silent fun _ => rfl) _).bind ?_
  rintro _ _ rfl
  refine .after_silent fun _ => ?_
  refine .bind (P := fun _ events => events = []) (.after_silent fun _ => .pure rfl) ?_
  rintro durationMs _ rfl
  exact .pure ⟨rfl, durationMs, rfl⟩

/-- A teardown that failed spoils an outcome only if the unit had passed. -/
theorem unitEnd_of_failed (unit : TestUnit) (outcome : UnitOutcome) (failure : FixtureFailure)
    (durationMs : UInt64) :
    UnitEnd unit outcome (.failed failure) (.ok ⟨unit.identifier,
      outcome.afterTeardown (some failure.message), durationMs, some failure.message⟩) := by
  cases outcome with
  | passed => exact .spoiled failure durationMs rfl
  | failed assertion => exact .kept failure durationMs nofun
  | fatal reason => exact .kept failure durationMs nofun

theorem runUnit_emits (unit : TestUnit) :
    Emits (runner.recorded.runUnit unit) fun result events =>
      UnitRun runner.fixture runner.baseUrl unit events result := by
  refine .after_silent fun _ => .after_silent fun start => ?_
  refine (runner.guarded_emits unit).bind fun guarded calls hcourse => ?_
  refine runner.tearDown_emits.bind ?_
  rintro deletion _ rfl
  -- Whatever the guard let out, the answer to the deletion decides whether there is a report.
  cases deletion with
  | crashed crash => exact .pure (by simpa using .intro hcourse (.lost crash))
  | returned _ =>
    refine (runner.conclude_emits unit start _ none).bind ?_
    rintro _ _ ⟨rfl, durationMs, rfl⟩
    exact .pure (by simpa [UnitOutcome.afterTeardown] using .intro hcourse (.clean durationMs))
  | failed failure =>
    refine (runner.conclude_emits unit start _ (some failure.message)).bind ?_
    rintro _ _ ⟨rfl, durationMs, rfl⟩
    exact .pure (by simpa using .intro hcourse (unitEnd_of_failed unit _ failure durationMs))

/-! ### Runs -/

theorem runEach_emits (units : List TestUnit) :
    Emits (runner.recorded.runEach units) fun result events => ∃ blocks,
      events = blocks.flatten ∧ SuiteRun runner.fixture runner.baseUrl units blocks result := by
  induction units with
  | nil => exact .pure ⟨[], rfl, .done⟩
  | cons unit rest ih =>
    refine (runner.runUnit_emits unit).bind fun result block hunit => ?_
    cases result with
    -- The units behind a crash are not begun, so the record ends with this block.
    | error crash => exact .pure ⟨[block], by simp, .broken hunit⟩
    | ok report =>
      refine ih.bind ?_
      rintro result _ ⟨blocks, rfl, hrest⟩
      exact .pure ⟨block :: blocks, by simp, .next hunit hrest⟩

theorem runUnits_emits (stamp : RunStamp) (suite : String) (units : List TestUnit) :
    Emits (runner.recorded.runUnits stamp suite units) fun result events =>
      ∃ blocks reports durationMs, events = blocks.flatten ∧
        SuiteRun runner.fixture runner.baseUrl units blocks reports ∧
        result = reports.map (RunReport.ofUnits stamp suite · durationMs) := by
  refine .after_silent fun start => (runner.runEach_emits units).bind ?_
  rintro reports _ ⟨blocks, rfl, hrun⟩
  cases reports with
  | error crash => exact .pure ⟨blocks, .error crash, 0, by simp, hrun, rfl⟩
  | ok reports =>
    refine .bind (P := fun _ events => events = []) (.after_silent fun _ => .pure rfl) ?_
    rintro durationMs _ rfl
    exact .after_silent fun _ => .pure ⟨blocks, .ok reports, durationMs, by simp, hrun, rfl⟩

variable (stamp : RunStamp) (suite : String)

/-- A run of units follows the rules. -/
theorem runUnits_follows (units : List TestUnit) (s : σ) :
    ∃ blocks reports durationMs,
      runner.unitsTrace stamp suite units s = blocks.flatten ∧
      SuiteRun runner.fixture runner.baseUrl units blocks reports ∧
      ((runner.runUnits stamp suite units).run s).1 =
        reports.map (RunReport.ofUnits stamp suite · durationMs) := by
  obtain ⟨events, hevents, blocks, reports, durationMs, rfl, hrun, hresult⟩ :=
    runner.runUnits_emits stamp suite units ([], s)
  rw [recorded_runUnits] at hresult
  exact ⟨blocks, reports, durationMs, hevents, hrun, hresult⟩

theorem trace_of_error {registry : List TestCase} {error : ExpansionError}
    (h : expand suite registry = .error error) (s : σ) :
    runner.trace stamp suite registry s = [] := by
  unfold trace run
  rw [h]
  rfl

/-- The calls of a run of a registry are those of the run of its units. -/
theorem trace_of_ok {registry : List TestCase} {units : List TestUnit}
    (h : expand suite registry = .ok units) (s : σ) :
    runner.trace stamp suite registry s = runner.unitsTrace stamp suite units s := by
  unfold trace run
  rw [h]
  rfl

/-- The run of a registry is the run of its units. -/
theorem run_of_expand {registry : List TestCase} {units : List TestUnit}
    (h : expand suite registry = .ok units) (s : σ) :
    ((runner.run stamp suite registry).run s).1 =
      .ofRun ((runner.runUnits stamp suite units).run s).1 := by
  unfold run
  rw [h]
  rfl

end SuiteRunner

end RestConformance
