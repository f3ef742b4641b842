import Mathlib.Data.List.Perm.Basic
import RestConformance.Proofs.Expansion
import RestConformance.Proofs.Suite.Course
import RestConformance.Proofs.Suite.LinkServer
import RestConformance.Registry

/-!
# Independence of the order

Over a server that is known by the names of its links, every unit starts from the same names,
because the unit before it left them as it found them. So the order of a registry decides nothing
but the order of the report.

## Main results

* `LinkServer.runUnit_restores` – a unit leaves the names as they were;
* `LinkServer.runEach_timeless` – there is one verdict for each unit, wherever it stands;
* `LinkServer.run_perm` – a registry and a permutation of it have the same verdicts.
-/

namespace RestConformance

/-! ### Reports that agree -/

section Reports

variable {reports reports' : List UnitReport}

theorem map_identifier_timeless :
    (reports.map UnitReport.timeless).map (·.identifier) = reports.map (·.identifier) := by
  rw [List.map_map]
  rfl

/-- If the reports agree but for order and time, those with the same identifier agree. -/
theorem agree_of_identifier_eq
    (h : (reports.map UnitReport.timeless).Perm (reports'.map UnitReport.timeless))
    (hnodup : (reports.map (·.identifier)).Nodup) {report report' : UnitReport}
    (hmem : report ∈ reports) (hmem' : report' ∈ reports')
    (hidentifier : report.identifier = report'.identifier) :
    report.outcome = report'.outcome ∧ report.teardownError = report'.teardownError := by
  rw [← map_identifier_timeless] at hnodup
  have hleft := List.mem_map_of_mem (f := UnitReport.timeless) hmem
  have hright := h.mem_iff.2 (List.mem_map_of_mem (f := UnitReport.timeless) hmem')
  have hsame := List.inj_on_of_nodup_map hnodup hleft hright hidentifier
  show report.timeless.outcome = _ ∧ report.timeless.teardownError = _
  rw [hsame]
  exact ⟨rfl, rfl⟩

/-- Where the reports are verdicts on cases, their identifiers are those of the cases. -/
theorem map_identifier_of_verdicts {suite : String} {registry : List TestCase}
    {verdict : TestUnit → UnitReport}
    (hidentifier : ∀ unit, (verdict unit).identifier = unit.identifier)
    (h : reports.map UnitReport.timeless =
      (registry.map (TestUnit.ofCase suite)).map verdict) :
    reports.map (·.identifier) = registry.map (TestUnit.identifierOf suite) := by
  rw [← map_identifier_timeless, h, List.map_map, List.map_map]
  apply List.map_congr_left
  intro testCase _
  exact hidentifier _

/-- What is counted of a report does not look at the time. -/
theorem countP_eq_of_timeless_perm
    (h : (reports.map UnitReport.timeless).Perm (reports'.map UnitReport.timeless))
    (p : UnitOutcome → Bool) :
    reports.countP (fun report => p report.outcome) =
      reports'.countP fun report => p report.outcome := by
  have hcount := h.countP_eq fun report => p report.outcome
  rw [List.countP_map, List.countP_map] at hcount
  exact hcount

end Reports

/-! ### Runs of units -/

/-- Behind a unit that has a report, the other units run from the state that it leaves. -/
theorem SuiteRunner.runEach_cons {σ : Type} (runner : SuiteRunner (StateM σ)) {unit : TestUnit}
    {report : UnitReport} {s s' : σ} (h : (runner.runUnit unit).run s = (.ok report, s'))
    (rest : List TestUnit) :
    (runner.runEach (unit :: rest)).run s =
      (((runner.runEach rest).run s').1.map (report :: ·), ((runner.runEach rest).run s').2) := by
  show (runner.runUnit unit >>= _).run s = _
  rw [StateT.run_bind, h]
  rfl

variable {ω : Type}

namespace LinkServer

variable (server : LinkServer) (log : Logger (StateM ω)) (clock : StateM ω UInt64)
  (fixture : LinkFixture) (baseUrl : String)

section Run

variable {names : Finset String}

/-- From names without that of the fixture, a unit has a report and leaves the names as they
were. -/
theorem runUnit_restores (hname : fixture.name ∉ names) (unit : TestUnit) (w : ω) :
    ∃ report w', ((server.runner log clock fixture baseUrl).runUnit unit).run (names, w) =
        (.ok report, names, w') ∧
      report.identifier = unit.identifier := by
  have hothers : names.erase fixture.name = names := Finset.erase_eq_of_notMem hname
  obtain ⟨hnames, report, hreport, hidentifier⟩ :=
    (server.keepsLinks log clock fixture baseUrl).runUnit unit (names, w) hothers
  exact ⟨report, _, Prod.ext hreport (Prod.ext hnames rfl), hidentifier⟩

/-- From names without that of the fixture, there is one verdict for each unit, and every run
reports it, whichever units it runs and in which order. -/
theorem runEach_timeless (hname : fixture.name ∉ names) (w₀ : ω) :
    ∃ verdict : TestUnit → UnitReport, (∀ unit, (verdict unit).identifier = unit.identifier) ∧
      ∀ (units : List TestUnit) (w : ω), ∃ reports,
        (((server.runner log clock fixture baseUrl).runEach units).run (names, w)).1 =
          .ok reports ∧
        reports.map UnitReport.timeless = units.map verdict := by
  choose report after hreport hidentifier using fun unit =>
    server.runUnit_restores log clock fixture baseUrl hname unit w₀
  refine ⟨fun unit => (report unit).timeless, hidentifier, fun units => ?_⟩
  -- Each unit starts from the names that the run started from, at a time of its own.
  induction units with
  | nil => exact fun w => ⟨[], rfl, rfl⟩
  | cons unit rest ih =>
    intro w
    obtain ⟨report', w', hunit, -⟩ :=
      server.runUnit_restores log clock fixture baseUrl hname unit w
    obtain ⟨reports, hreports, htimeless⟩ := ih w'
    refine ⟨report' :: reports, ?_, ?_⟩
    · rw [SuiteRunner.runEach_cons _ hunit, hreports]
      rfl
    · have hsame := ((server.portsCoupled log clock fixture baseUrl).runUnit_timeless
        (fun _ _ hstates => ⟨trivial, hstates⟩) unit (names, w) (names, w₀) rfl).1
      rw [hunit, hreport unit] at hsame
      rw [List.map_cons, List.map_cons, htimeless, Except.ok.inj hsame]

/-- The report of a run tells the verdict of each unit. -/
theorem run_timeless (hname : fixture.name ∉ names) (w₀ : ω) :
    ∃ verdict : TestUnit → UnitReport, (∀ unit, (verdict unit).identifier = unit.identifier) ∧
      ∀ (stamp : RunStamp) (suite : String) (registry : List TestCase) (units : List TestUnit)
        (w : ω), expand suite registry = .ok units → ∃ reports durationMs,
        (((server.runner log clock fixture baseUrl).run stamp suite registry).run (names, w)).1 =
          .returned (.ofUnits stamp suite reports durationMs) ∧
        reports.map UnitReport.timeless = units.map verdict := by
  obtain ⟨verdict, hidentifier, hverdict⟩ :=
    server.runEach_timeless log clock fixture baseUrl hname w₀
  refine ⟨verdict, hidentifier, fun stamp suite registry units w hexpand => ?_⟩
  obtain ⟨reports, hreports, htimeless⟩ := hverdict units (clock.run w).2
  have hrun : Ensures (· = (names, w))
      ((server.runner log clock fixture baseUrl).runUnits stamp suite units)
      fun result _ => ∃ durationMs, result = .ok (.ofUnits stamp suite reports durationMs) := by
    refine .bind (R := fun _ world => world = (names, (clock.run w).2)) ?_ fun start => ?_
    · rintro _ rfl
      rfl
    · refine .bind (R := fun result _ => result = .ok reports) ?_ fun result => ?_
      · rintro _ rfl
        exact hreports
      · rintro world rfl
        exact ⟨_, rfl⟩
  obtain ⟨durationMs, hresult⟩ := hrun (names, w) rfl
  refine ⟨reports, durationMs, ?_, htimeless⟩
  rw [SuiteRunner.run_of_expand _ stamp _ hexpand, hresult]
  rfl

/-- A registry and a permutation of it have the same verdicts: the same outcome and the same error
of the teardown for each identifier, and the same counters. -/
theorem run_perm (stamp stamp' : RunStamp) (suite : String) (registry registry' : List TestCase)
    (w w' : ω) (hexpand : ∃ units, expand suite registry = .ok units)
    (hname : fixture.name ∉ names) (hperm : registry.Perm registry') :
    ∃ report report' : RunReport,
      (((server.runner log clock fixture baseUrl).run stamp suite registry).run (names, w)).1 =
        .returned report ∧
      (((server.runner log clock fixture baseUrl).run stamp' suite registry').run (names, w')).1 =
        .returned report' ∧
      report.units.map (·.identifier) = registry.map (TestUnit.identifierOf suite) ∧
      report'.units.map (·.identifier) = registry'.map (TestUnit.identifierOf suite) ∧
      (∀ unit ∈ report.units, ∀ unit' ∈ report'.units, unit.identifier = unit'.identifier →
        unit.outcome = unit'.outcome ∧ unit.teardownError = unit'.teardownError) ∧
      report.total = report'.total ∧ report.passed = report'.passed ∧
      report.failed = report'.failed ∧ report.fatal = report'.fatal := by
  obtain ⟨verdict, hidentifier, hverdict⟩ :=
    server.run_timeless log clock fixture baseUrl hname w
  obtain ⟨units, hunits⟩ := hexpand
  have hunits' := expand_perm hperm hunits
  obtain ⟨-, hnodup, rfl⟩ := expand_eq_ok_iff.1 hunits
  obtain ⟨reports, durationMs, hreport, htimeless⟩ := hverdict stamp suite registry _ w hunits
  obtain ⟨reports', durationMs', hreport', htimeless'⟩ :=
    hverdict stamp' suite registry' _ w' hunits'
  have hagree : (reports.map UnitReport.timeless).Perm (reports'.map UnitReport.timeless) := by
    rw [htimeless, htimeless']
    exact (hperm.map _).map _
  have hidentifiers := map_identifier_of_verdicts hidentifier htimeless
  refine ⟨_, _, hreport, hreport', hidentifiers,
    map_identifier_of_verdicts hidentifier htimeless', ?_, ?_, ?_, ?_, ?_⟩
  · intro unit hunit unit' hunit' hsame
    rw [← hidentifiers] at hnodup
    exact agree_of_identifier_eq hagree hnodup hunit hunit' hsame
  · show reports.length = reports'.length
    simpa using hagree.length_eq
  · exact countP_eq_of_timeless_perm hagree _
  · exact countP_eq_of_timeless_perm hagree _
  · exact countP_eq_of_timeless_perm hagree _

end Run

/-- A server that keeps no two links of one name and that knows its resources only while it keeps
the standard link. -/
def strict : LinkServer where
  create connectorName _ := .returned (.ofConnector connectorName)
  save link names :=
    if link.name ∈ names then .failed (.unexpectedStatus "save link" 409 link.name)
    else .returned ()
  keeps link names := link.name ∉ names
  respond _ names :=
    .returned (.ofBody (if LinkFixture.standard.name ∈ names then 200 else 404) "")
  deleteMissing name _ := .error (.unexpectedStatus "delete link" 404 name)

/-- The runner over that server, with a clock that goes on by one at each look. -/
def strictRunner : SuiteRunner (StateM (Finset String × UInt64)) :=
  strict.runner (fun _ => pure ()) (modifyGet fun now => (now, now + 1)) .standard "http://[::1]/"

/-- Two cases that ask for different resources. The first one passes. -/
def pairRegistry : List TestCase :=
  [Registry.reading "Version" "version" (.status 200),
    Registry.reading "Connectors" "v1/connector/all" (.status 404)]

/-- A run of two cases, and one of the same cases the other way round at another time. -/
theorem run_perm_reversed :
    ∃ report report' : RunReport,
      ((strictRunner.run ⟨"run", ⟨0, 0⟩⟩ "S" pairRegistry).run ({"other"}, 0)).1 =
        .returned report ∧
      ((strictRunner.run ⟨"again", ⟨9, 0⟩⟩ "S" pairRegistry.reverse).run ({"other"}, 5)).1 =
        .returned report' ∧
      (∀ unit ∈ report.units, ∀ unit' ∈ report'.units, unit.identifier = unit'.identifier →
        unit.outcome = unit'.outcome ∧ unit.teardownError = unit'.teardownError) ∧
      report.passed = report'.passed := by
  have hexpand : ∃ units, expand "S" pairRegistry = .ok units :=
    ⟨_, expand_eq_ok_iff.2 ⟨by decide +kernel, by decide +kernel, rfl⟩⟩
  have hname : LinkFixture.standard.name ∉ ({"other"} : Finset String) := by decide
  obtain ⟨report, report', hreport, hreport', -, -, hverdicts, -, hpassed, -⟩ :=
    run_perm strict (fun _ => pure ()) (modifyGet fun now => (now, now + 1)) .standard
      "http://[::1]/" ⟨"run", ⟨0, 0⟩⟩ ⟨"again", ⟨9, 0⟩⟩ "S" pairRegistry pairRegistry.reverse 0 5
      hexpand hname pairRegistry.reverse_perm.symm
  exact ⟨report, report', hreport, hreport', hverdicts, hpassed⟩

end LinkServer

end RestConformance
