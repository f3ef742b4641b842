import RestConformance.Proofs.Suite.Course

/-!
# Histories of units

A run of units comes apart into the histories of the units that it ran to their end. Either these
are all its units, and the run has a report, or there is one more unit whose teardown crashed and
the units behind it are lost.

## Main definitions

* `UnitAttempt` – a unit up to its teardown;
* `UnitHistory` – a unit that was run to its end, with its calls and its report;
* `UnitLoss` – a unit whose teardown crashed.

## Main results

* `SuiteRunner.runUnits_cases` – the two ways in which a run can go.
-/

namespace RestConformance

/-- Whether the event is a deletion. -/
def SuiteEvent.isDeletion : SuiteEvent → Bool
  | .deleted _ _ => true
  | _ => false

theorem SuiteEvent.isCrashedDeletion_eq_false {event : SuiteEvent} (h : event.isDeletion = false) :
    event.isCrashedDeletion = false := by
  cases event with
  | deleted name answer => exact absurd h (by simp [isDeletion])
  | _ => rfl

variable {fixture : LinkFixture} {baseUrl : String}

/-- A unit deletes nothing before its teardown. -/
theorem UnitCourse.isDeletion_eq_false {testCase : TestCase} {calls : List SuiteEvent}
    {outcome : UnitOutcome} (h : UnitCourse fixture baseUrl testCase calls outcome) :
    ∀ event ∈ calls, event.isDeletion = false := by
  cases h <;> simp [SuiteEvent.isDeletion]

/-- A report bears the identifier of its unit. -/
theorem UnitEnd.identifier_eq {unit : TestUnit} {outcome : UnitOutcome}
    {deletion : Outcome FixtureFailure Unit} {report : UnitReport}
    (h : UnitEnd unit outcome deletion (.ok report)) : report.identifier = unit.identifier := by
  cases h <;> rfl

/-- Where there is a report, the teardown has not crashed. -/
theorem UnitEnd.not_crashed {unit : TestUnit} {outcome : UnitOutcome}
    {deletion : Outcome FixtureFailure Unit} {report : UnitReport}
    (h : UnitEnd unit outcome deletion (.ok report)) (name : String) :
    (SuiteEvent.deleted name deletion).isCrashedDeletion = false := by
  cases h <;> rfl

/-! ### Units -/

/-- A unit up to its teardown: its calls, and the outcome that they lead to. -/
structure UnitAttempt (fixture : LinkFixture) (baseUrl : String) where
  unit : TestUnit
  calls : List SuiteEvent
  outcome : UnitOutcome
  course : UnitCourse fixture baseUrl unit.testCase calls outcome

/-- A unit that was run to its end: besides the attempt the answer to the teardown, and the
report. -/
structure UnitHistory (fixture : LinkFixture) (baseUrl : String) extends
    UnitAttempt fixture baseUrl where
  /-- The answer to the teardown. -/
  deletion : Outcome FixtureFailure Unit
  report : UnitReport
  ending : UnitEnd unit outcome deletion (.ok report)

/-- A unit whose teardown crashed. It has no report. -/
structure UnitLoss (fixture : LinkFixture) (baseUrl : String) extends
    UnitAttempt fixture baseUrl where
  /-- The crash of the teardown. -/
  crash : Crash

namespace UnitAttempt

variable (attempt : UnitAttempt fixture baseUrl) (deletion : Outcome FixtureFailure Unit)

/-- The calls of the unit, with the teardown and the answer to it. -/
def eventsWith : List SuiteEvent :=
  attempt.calls ++ [.deleted fixture.name deletion]

/-- The only deletion of a unit is the one that ends it. -/
theorem filter_eventsWith :
    (attempt.eventsWith deletion).filter (·.isDeletion) = [.deleted fixture.name deletion] := by
  have hcalls : attempt.calls.filter (·.isDeletion) = [] := by
    rw [List.filter_eq_nil_iff]
    intro event hevent
    simp [attempt.course.isDeletion_eq_false event hevent]
  rw [eventsWith, List.filter_append, hcalls]
  rfl

/-- If a deletion of the unit crashed, it is the one that ends it. -/
theorem eq_of_mem_eventsWith {event : SuiteEvent} (hevent : event ∈ attempt.eventsWith deletion)
    (hcrashed : event.isCrashedDeletion = true) : event = .deleted fixture.name deletion := by
  rcases List.mem_append.1 hevent with hcall | hdeletion
  · have hother := attempt.course.isDeletion_eq_false event hcall
    rw [SuiteEvent.isCrashedDeletion_eq_false hother] at hcrashed
    cases hcrashed
  · exact List.mem_singleton.1 hdeletion

end UnitAttempt

/-- The calls of a unit that was run to its end. -/
def UnitHistory.events (history : UnitHistory fixture baseUrl) : List SuiteEvent :=
  history.eventsWith history.deletion

/-- The calls of a unit whose teardown crashed. -/
def UnitLoss.events (loss : UnitLoss fixture baseUrl) : List SuiteEvent :=
  loss.eventsWith (.crashed loss.crash)

/-- No deletion of a unit that was run to its end has crashed. -/
theorem UnitHistory.not_crashed (history : UnitHistory fixture baseUrl) :
    ∀ event ∈ history.events, event.isCrashedDeletion = false := by
  intro event hevent
  rw [Bool.eq_false_iff]
  intro hcrashed
  rw [history.eq_of_mem_eventsWith _ hevent hcrashed, history.ending.not_crashed] at hcrashed
  cases hcrashed

theorem UnitLoss.crashed_mem_events (loss : UnitLoss fixture baseUrl) :
    SuiteEvent.deleted fixture.name (.crashed loss.crash) ∈ loss.events :=
  List.mem_append_right _ (List.mem_singleton_self _)

/-- The crash of a teardown is on record, so a record without such a crash has no unit that is
lost. -/
theorem UnitLoss.not_clean (loss : UnitLoss fixture baseUrl) {before : List SuiteEvent}
    (h : ∀ event ∈ before ++ loss.events, event.isCrashedDeletion = false) : False := by
  have hlast := h _ (List.mem_append_right before loss.crashed_mem_events)
  cases hlast

/-! ### Lists of histories -/

section Histories

variable (histories : List (UnitHistory fixture baseUrl))

theorem identifier_histories :
    (histories.map (·.report)).map (·.identifier) =
      (histories.map (·.unit)).map (·.identifier) := by
  rw [List.map_map, List.map_map]
  apply List.map_congr_left
  intro history _
  exact history.ending.identifier_eq

/-- There is one deletion in each history. -/
theorem filter_isDeletion_histories :
    (histories.flatMap (·.events)).filter (·.isDeletion) =
      histories.map fun history => .deleted fixture.name history.deletion := by
  rw [List.filter_flatMap, List.map_eq_flatMap]
  congr 1
  funext history
  exact history.filter_eventsWith _

theorem histories_not_crashed :
    ∀ event ∈ histories.flatMap (·.events), event.isCrashedDeletion = false := by
  intro event hevent
  obtain ⟨history, _, hmem⟩ := List.mem_flatMap.1 hevent
  exact history.not_crashed event hmem

/-- Behind histories, the deletion of a unit that is lost is the only one that crashed. -/
theorem eq_of_mem_lost (loss : UnitLoss fixture baseUrl) {event : SuiteEvent}
    (hevent : event ∈ histories.flatMap (·.events) ++ loss.events)
    (hcrashed : event.isCrashedDeletion = true) :
    event = .deleted fixture.name (.crashed loss.crash) := by
  rcases List.mem_append.1 hevent with hmem | hmem
  · rw [histories_not_crashed histories event hmem] at hcrashed
    cases hcrashed
  · exact loss.eq_of_mem_eventsWith _ hmem hcrashed

end Histories

/-! ### Runs -/

/-- A run that is not broken is made of histories. -/
theorem SuiteRun.histories {units : List TestUnit} {blocks : List (List SuiteEvent)}
    {result : Except Crash (List UnitReport)} (h : SuiteRun fixture baseUrl units blocks result) :
    (∃ histories : List (UnitHistory fixture baseUrl),
      histories.map (·.unit) = units ∧ blocks.flatten = histories.flatMap (·.events) ∧
      result = .ok (histories.map (·.report))) ∨
    (∃ (histories : List (UnitHistory fixture baseUrl)) (loss : UnitLoss fixture baseUrl)
      (rest : List TestUnit),
      units = histories.map (·.unit) ++ loss.unit :: rest ∧
      blocks.flatten = histories.flatMap (·.events) ++ loss.events ∧
      result = .error loss.crash) := by
  induction h with
  | done => exact .inl ⟨[], rfl, rfl, rfl⟩
  | @broken unit rest _ crash hunit =>
    obtain @⟨calls, outcome, _, _, hcourse, ⟨⟩⟩ := hunit
    refine .inr ⟨[], ⟨⟨unit, calls, outcome, hcourse⟩, crash⟩, rest, rfl, ?_, rfl⟩
    exact List.append_nil _
  | @next unit rest _ blocks report _ hunit _ ih =>
    obtain @⟨calls, outcome, deletion, _, hcourse, hend⟩ := hunit
    let history : UnitHistory fixture baseUrl :=
      ⟨⟨unit, calls, outcome, hcourse⟩, deletion, report, hend⟩
    -- This unit has a report, so how the run goes is how the rest of it goes.
    rcases ih with ⟨histories, hunits, hevents, hresult⟩ |
      ⟨histories, loss, lost, hunits, hevents, hresult⟩
    · refine .inl ⟨history :: histories, ?_, ?_, ?_⟩
      · rw [List.map_cons, hunits]
      · rw [List.flatten_cons, List.flatMap_cons, hevents]
        rfl
      · rw [hresult]
        rfl
    · refine .inr ⟨history :: histories, loss, lost, ?_, ?_, ?_⟩
      · rw [List.map_cons, List.cons_append, hunits]
      · rw [List.flatten_cons, List.flatMap_cons, hevents, ← List.append_assoc]
        rfl
      · rw [hresult]
        rfl

namespace SuiteRunner

variable {σ : Type} (runner : SuiteRunner (StateM σ)) (stamp : RunStamp) (suite : String)

/-- A run of units either runs each of them to its end and reports on them all, or the teardown of
one of them crashes, which ends the run. -/
theorem runUnits_cases (units : List TestUnit) (s : σ) :
    (∃ (histories : List (UnitHistory runner.fixture runner.baseUrl)) (durationMs : UInt64),
      histories.map (·.unit) = units ∧
      runner.unitsTrace stamp suite units s = histories.flatMap (·.events) ∧
      ((runner.runUnits stamp suite units).run s).1 =
        .ok (.ofUnits stamp suite (histories.map (·.report)) durationMs)) ∨
    (∃ (histories : List (UnitHistory runner.fixture runner.baseUrl))
      (loss : UnitLoss runner.fixture runner.baseUrl) (rest : List TestUnit),
      units = histories.map (·.unit) ++ loss.unit :: rest ∧
      runner.unitsTrace stamp suite units s = histories.flatMap (·.events) ++ loss.events ∧
      ((runner.runUnits stamp suite units).run s).1 = .error loss.crash) := by
  obtain ⟨blocks, reports, durationMs, htrace, hrun, hresult⟩ :=
    runner.runUnits_follows stamp suite units s
  rw [htrace, hresult]
  rcases hrun.histories with ⟨histories, hunits, hevents, rfl⟩ |
    ⟨histories, loss, rest, hunits, hevents, rfl⟩
  · exact .inl ⟨histories, durationMs, hunits, hevents, rfl⟩
  · exact .inr ⟨histories, loss, rest, hunits, hevents, rfl⟩

end SuiteRunner

end RestConformance
