import RestConformance.Proofs.Notes
import RestConformance.Proofs.Suite.Crashes
import RestConformance.Proofs.Suite.Preservation

/-!
# What runs tell

A run tells of each unit when it starts and when it ends, and in between of what went wrong. Told
are things that happen at different points of a unit, before and after the teardown has had its say
on the outcome; what is told agrees with the report all the same.

## Main definitions

* `LogEntry.isProminent` – what is told to everybody, and not only to who looks for a mistake;
* `SuiteRunner.told` – the entries of a run;
* `UnitReport.account`, `RunReport.closing` – the entries that belong to a report.

## Main results

* `SuiteRunner.told_accounts` – a run tells the accounts of its units and closes with the counters.
-/

namespace RestConformance

/-- Whether an entry is not only of use when looking for a mistake. -/
def LogEntry.isProminent (entry : LogEntry) : Bool :=
  entry.level != .debug

/-- The entries that are told to everybody. -/
def prominent (entries : List LogEntry) : List LogEntry :=
  entries.filter LogEntry.isProminent

/-- What is told when a unit ends. -/
def UnitReport.ending (report : UnitReport) : LogEntry :=
  ⟨.info, "End: " ++ report.identifier ++ " [" ++ report.outcome.label ++ "]", []⟩

/-- What is told of a unit: its start, what went wrong in the teardown and before, and its end. -/
def UnitReport.account (report : UnitReport) : List LogEntry :=
  ⟨.info, "Start: " ++ report.identifier, []⟩ ::
    (match report.teardownError with
      | some text => [⟨.warn, "fixture teardown failed: " ++ text, [("unit", report.identifier)]⟩]
      | none => []) ++
    (match report.outcome with
      | .passed => []
      | .failed failure =>
        [⟨.warn, "assertion failed: " ++ failure.message, [("unit", report.identifier)]⟩]
      | .fatal reason => [⟨.error, "unit aborted: " ++ reason, [("unit", report.identifier)]⟩]) ++
    [report.ending]

/-- What is told at the end of a run. -/
def RunReport.closing (report : RunReport) : LogEntry :=
  ⟨.info, "suite finished", [("suite", report.suiteName), ("total", toString report.total),
    ("passed", toString report.passed), ("failed", toString report.failed),
    ("fatal", toString report.fatal)]⟩

theorem prominent_append (front back : List LogEntry) :
    prominent (front ++ back) = prominent front ++ prominent back :=
  List.filter_append _ _

theorem UnitReport.prominent_account (report : UnitReport) :
    prominent report.account = report.account := by
  obtain ⟨identifier, outcome, durationMs, teardownError⟩ := report
  cases teardownError <;> cases outcome <;> rfl

/-! ### Counting ends -/

namespace LogEntry

/-- Whether an entry tells of the end of a unit. -/
def isEnd (entry : LogEntry) : Bool :=
  entry.level == .info && "End: ".toList.isPrefixOf entry.message.toList

/-- Whether an entry tells of the end of a unit with a label. -/
def isEndOf (label : String) (entry : LogEntry) : Bool :=
  entry.isEnd && (" [" ++ label ++ "]").toList.isSuffixOf entry.message.toList

end LogEntry

namespace UnitReport

variable (report : UnitReport)

theorem isEnd_ending : report.ending.isEnd = true := by
  simp [ending, LogEntry.isEnd]

/-- The label that is told is that of the outcome. -/
theorem isEndOf_ending :
    report.ending.isEndOf "PASSED" = report.outcome.isPassed ∧
      report.ending.isEndOf "FAILED" = report.outcome.isFailed ∧
      report.ending.isEndOf "FATAL" = report.outcome.isFatal := by
  simp only [LogEntry.isEndOf, isEnd_ending, Bool.true_and]
  unfold ending
  cases report.outcome <;>
    simp [UnitOutcome.label, UnitOutcome.isPassed, UnitOutcome.isFailed, UnitOutcome.isFatal,
      List.isSuffixOf, List.isPrefixOf]

/-- Of the entries of a unit only the last one tells of its end. -/
theorem countP_account {p : LogEntry → Bool} (hp : ∀ entry, entry.isEnd = false → p entry = false) :
    report.account.countP p = if p report.ending then 1 else 0 := by
  have hstart : p ⟨.info, "Start: " ++ report.identifier, []⟩ = false :=
    hp _ (by simp [LogEntry.isEnd, List.isPrefixOf])
  have hwarn : ∀ message fields, p ⟨.warn, message, fields⟩ = false := fun _ _ => hp _ rfl
  have herror : ∀ message fields, p ⟨.error, message, fields⟩ = false := fun _ _ => hp _ rfl
  unfold account
  cases report.teardownError <;> cases report.outcome <;>
    simp [List.countP_cons, hstart, hwarn, herror]

end UnitReport

/-- A run tells of as many ends of a kind as there are reports with such an end. -/
theorem countP_accounts {p : LogEntry → Bool} (hp : ∀ entry, entry.isEnd = false → p entry = false)
    (reports : List UnitReport) :
    (reports.flatMap UnitReport.account).countP p =
      reports.countP fun report => p report.ending := by
  induction reports with
  | nil => rfl
  | cons report rest ih =>
    rw [List.flatMap_cons, List.countP_append, report.countP_account hp, ih, List.countP_cons,
      Nat.add_comm]

/-- What is told at the end of a run tells of the end of no unit. -/
theorem RunReport.countP_entries {p : LogEntry → Bool}
    (hp : ∀ entry, entry.isEnd = false → p entry = false) (report : RunReport) :
    (report.units.flatMap UnitReport.account ++ [report.closing]).countP p =
      report.units.countP fun unit => p unit.ending := by
  have hclosing : p report.closing = false :=
    hp _ (by simp [LogEntry.isEnd, RunReport.closing, List.isPrefixOf])
  simp [countP_accounts hp, hclosing]

variable {σ α : Type}

namespace SuiteRunner

/-- The entries of a unit are those of its account. -/
theorem account_eq (unit : TestUnit) (outcome : UnitOutcome) (durationMs : UInt64)
    (teardownError : Option String) :
    UnitReport.account ⟨unit.identifier, outcome, durationMs, teardownError⟩ =
      [startEntry unit] ++ (teardownEntries unit teardownError ++ outcomeEntries unit outcome) ++
        [endEntry unit outcome] := by
  cases teardownError <;> cases outcome <;> rfl

/-- The runner, with a note of each entry that it logs. -/
def listened (runner : SuiteRunner (StateM σ)) : SuiteRunner (Noting LogEntry σ) where
  execute request := Noting.silent (runner.execute request)
  fixtures :=
    { create := fun connectorName => Noting.silent (runner.fixtures.create connectorName)
      save := fun link => Noting.silent (runner.fixtures.save link)
      delete := fun name => Noting.silent (runner.fixtures.delete name)
      contains := fun name => Noting.silent (runner.fixtures.contains name) }
  log entry := Noting.noted (fun _ _ => entry) (runner.log entry)
  clock := Noting.silent runner.clock
  fixture := runner.fixture
  baseUrl := runner.baseUrl

variable (runner : SuiteRunner (StateM σ)) (stamp : RunStamp) (suite : String)

/-- The entries of a run of units that starts in a state. -/
def told (units : List TestUnit) (s : σ) : List LogEntry :=
  ((runner.listened.runUnits stamp suite units).run ([], s)).2.1

/-- To listen changes nothing else about a run. -/
theorem listened_coupled : PortsCoupled (fun world s => world.2 = s) runner.listened runner where
  create _ := Noting.silent_coupled _
  save _ := Noting.silent_coupled _
  delete _ := Noting.silent_coupled _
  execute _ := Noting.silent_coupled _
  log _ := Noting.noted_coupled _ _
  fixture := rfl
  baseUrl := rfl

theorem listened_runUnits (units : List TestUnit) (world : List LogEntry × σ) :
    ((runner.listened.runUnits stamp suite units).run world).1 =
      ((runner.runUnits stamp suite units).run world.2).1 :=
  (runner.listened_coupled.runUnits (Noting.silent_coupled _) stamp suite units world _ rfl).1

/-! ### Units -/

/-- What was told before is told still, and nothing more to everybody. -/
abbrev StaysQuiet (x : Noting LogEntry σ α) : Prop :=
  ∀ before, Ensures (fun world => prominent world.1 = before) x
    fun _ world => prominent world.1 = before

theorem silent_staysQuiet (x : StateM σ α) : StaysQuiet (Noting.silent x) :=
  fun before => Noting.silent_keeps (P := fun notes => prominent notes = before) x

/-- Entries come behind those that were told before. -/
theorem log_tells (entry : LogEntry) (before : List LogEntry) :
    Ensures (fun world => prominent world.1 = before) (runner.listened.log entry)
      fun _ world => prominent world.1 = before ++ prominent [entry] := by
  rintro world rfl
  exact prominent_append _ _

theorem log_staysQuiet {entry : LogEntry} (h : entry.isProminent = false) :
    StaysQuiet (runner.listened.log entry) := by
  intro before world hworld
  have htold := runner.log_tells entry before world hworld
  simpa [prominent, h] using htold

theorem forM_tells (entries before : List LogEntry) :
    Ensures (fun world => prominent world.1 = before) (entries.forM runner.listened.log)
      fun _ world => prominent world.1 = before ++ prominent entries := by
  induction entries generalizing before with
  | nil => exact .pure fun _ hs => hs.trans (List.append_nil _).symm
  | cons entry rest ih =>
    refine .bind (runner.log_tells entry before) fun _ => ?_
    have hsplit : prominent (entry :: rest) = prominent [entry] ++ prominent rest :=
      prominent_append [entry] rest
    rw [hsplit, ← List.append_assoc]
    exact ih _

theorem setUp_staysQuiet : StaysQuiet runner.listened.setUp := by
  intro before
  refine .chain (silent_staysQuiet _ before) (fun link => ?_) (fun _ _ hs => hs) fun _ _ hs => hs
  refine .chain (silent_staysQuiet _ before) (fun _ => ?_) (fun _ _ hs => hs) fun _ _ hs => hs
  exact .after (runner.log_staysQuiet rfl before) fun _ => .pure fun _ hs => hs

theorem exercise_staysQuiet (unit : TestUnit) : StaysQuiet (runner.listened.exercise unit) := by
  intro before
  exact exercise_ensures unit (fun _ hs => hs) (runner.log_staysQuiet rfl before) fun _ =>
    silent_staysQuiet _ before

theorem tearDown_staysQuiet : StaysQuiet runner.listened.tearDown := by
  intro before
  refine .chain (silent_staysQuiet _ before) (fun _ => ?_) (fun _ _ hs => hs) fun _ _ hs => hs
  exact .after (runner.log_staysQuiet rfl before) fun _ => .pure fun _ hs => hs

/-- From the start of a unit on, what is still to be told is the rest of its account. -/
theorem conclude_tells (unit : TestUnit) (start : UInt64) (outcome : UnitOutcome)
    (teardownError : Option String) (before : List LogEntry) :
    Ensures (fun world => prominent world.1 = before ++ prominent [startEntry unit])
      (runner.listened.conclude unit start outcome teardownError) fun report world =>
        prominent world.1 = before ++ report.account ∧ report.identifier = unit.identifier := by
  refine .bind (runner.forM_tells _ _) fun _ => .bind (runner.log_tells _ _) fun _ => ?_
  refine .after (silent_staysQuiet _ _) fun now => .pure fun world hworld => ⟨?_, rfl⟩
  rw [hworld, ← UnitReport.prominent_account, account_eq]
  simp only [prominent_append, List.append_assoc]

/-- A unit with a report tells its account. -/
theorem runUnit_tells (unit : TestUnit) (before : List LogEntry) :
    Ensures (fun world => prominent world.1 = before) (runner.listened.runUnit unit)
      fun result world => ∀ report, result = .ok report →
        prominent world.1 = before ++ report.account ∧ report.identifier = unit.identifier := by
  refine .bind (runner.log_tells _ before) fun _ => ?_
  refine .after (silent_staysQuiet _ _) fun start => .after ?_ fun guarded => ?_
  · exact .chain (runner.setUp_staysQuiet _) (fun _ => runner.exercise_staysQuiet unit _)
      (fun _ _ hs => hs) fun _ _ hs => hs
  · refine .after (runner.tearDown_staysQuiet _) fun deletion => ?_
    cases deletion with
    | returned _ =>
      refine .bind (runner.conclude_tells unit start _ none before) fun report => .pure ?_
      rintro world htold _ ⟨⟩
      exact htold
    | failed failure =>
      refine .bind (runner.conclude_tells unit start _ (some failure.message) before)
        fun report => .pure ?_
      rintro world htold _ ⟨⟩
      exact htold
    | crashed crash => exact .pure fun _ _ _ hresult => nomatch hresult

/-! ### Runs -/

/-- If units have reports, these bear their names, and their accounts have been told behind what was
told before. -/
def Accounted (units : List TestUnit) (before : List LogEntry)
    (result : Except Crash (List UnitReport)) (world : List LogEntry × σ) : Prop :=
  ∀ reports, result = .ok reports →
    prominent world.1 = before ++ reports.flatMap UnitReport.account ∧
      reports.map (·.identifier) = units.map (·.identifier)

theorem runEach_tells (units : List TestUnit) (before : List LogEntry) :
    Ensures (fun world => prominent world.1 = before) (runner.listened.runEach units)
      (Accounted units before) := by
  -- What the units before have told stays in front.
  induction units generalizing before with
  | nil =>
    refine .pure ?_
    rintro world hworld _ ⟨⟩
    exact ⟨hworld.trans (List.append_nil _).symm, rfl⟩
  | cons unit rest ih =>
    refine .bind (runner.runUnit_tells unit before) fun result => ?_
    cases result with
    | error crash => exact .pure fun _ _ _ hresult => nomatch hresult
    | ok report =>
      refine .given (fun world h => (h report rfl).2) fun hidentifier => ?_
      refine .mono (fun world h => (h report rfl).1) (.bind (ih _) fun result => .pure ?_)
      rintro world hworld reports hreports
      obtain ⟨others, hothers, rfl⟩ := exists_of_map_eq_ok hreports
      obtain ⟨htold, hidentifiers⟩ := hworld others hothers
      refine ⟨?_, ?_⟩
      · rw [htold, List.flatMap_cons, List.append_assoc]
      · rw [List.map_cons, List.map_cons, hidentifier, hidentifiers]

/-- A run with a report tells the accounts of its units and closes with its counters. -/
theorem runUnits_tells (units : List TestUnit) :
    Ensures (fun world => prominent world.1 = [])
      (runner.listened.runUnits stamp suite units) fun result world =>
        ∀ report, result = .ok report →
          prominent world.1 = report.units.flatMap UnitReport.account ++ [report.closing] ∧
            report.units.map (·.identifier) = units.map (·.identifier) := by
  refine .after (silent_staysQuiet _ _) fun start => ?_
  refine .bind (runner.runEach_tells units []) fun result => ?_
  cases result with
  | error crash => exact .pure fun _ _ _ hresult => nomatch hresult
  | ok reports =>
    refine .given (fun world h => (h reports rfl).2) fun hidentifiers => ?_
    refine .mono (fun world h => (h reports rfl).1) ?_
    refine .after (.after (silent_staysQuiet _ _) fun _ => .pure fun _ hs => hs)
      fun durationMs => ?_
    refine .bind (runner.log_tells _ _) fun _ => .pure ?_
    rintro world htold _ ⟨⟩
    exact ⟨htold, hidentifiers⟩

/-- If no deletion crashes, a run tells of its units, one after another, what the report says of
them, and closes with the counters of the report, which count the ends that were told. -/
theorem told_accounts (units : List TestUnit) (s : σ)
    (hdeletions : ∀ event ∈ runner.unitsTrace stamp suite units s,
      event.isCrashedDeletion = false) :
    ∃ report, ((runner.runUnits stamp suite units).run s).1 = .ok report ∧
      report.units.map (·.identifier) = units.map (·.identifier) ∧
      let entries := prominent (runner.told stamp suite units s)
      entries = report.units.flatMap UnitReport.account ++ [report.closing] ∧
      entries.countP LogEntry.isEnd = report.total ∧
      entries.countP (LogEntry.isEndOf "PASSED") = report.passed ∧
      entries.countP (LogEntry.isEndOf "FAILED") = report.failed ∧
      entries.countP (LogEntry.isEndOf "FATAL") = report.fatal := by
  rcases runner.runUnits_cases stamp suite units s with
    ⟨histories, durationMs, -, -, hresult⟩ | ⟨histories, loss, rest, -, htrace, -⟩
  · have hlistened := runner.listened_runUnits stamp suite units ([], s)
    obtain ⟨htold, hidentifiers⟩ := runner.runUnits_tells stamp suite units ([], s) rfl _
      (hlistened.trans hresult)
    have hcount : ∀ p : LogEntry → Bool, (∀ entry, entry.isEnd = false → p entry = false) →
        (prominent (runner.told stamp suite units s)).countP p =
          (histories.map (·.report)).countP fun report => p report.ending := by
      intro p hp
      rw [told, htold, RunReport.countP_entries hp]
      rfl
    have hlabel : ∀ label entry, LogEntry.isEnd entry = false →
        LogEntry.isEndOf label entry = false := by
      intro label entry hentry
      rw [LogEntry.isEndOf, hentry, Bool.false_and]
    refine ⟨_, hresult, hidentifiers, htold, ?_, ?_, ?_, ?_⟩
    · rw [hcount _ fun _ h => h]
      exact List.countP_eq_length.2 fun report _ => report.isEnd_ending
    · rw [hcount _ (hlabel "PASSED")]
      exact List.countP_congr fun report _ => by rw [report.isEndOf_ending.1]
    · rw [hcount _ (hlabel "FAILED")]
      exact List.countP_congr fun report _ => by rw [report.isEndOf_ending.2.1]
    · rw [hcount _ (hlabel "FATAL")]
      exact List.countP_congr fun report _ => by rw [report.isEndOf_ending.2.2]
  · rw [htrace] at hdeletions
    exact absurd hdeletions loss.not_clean

/-- The script whose second response and second deletion fail. -/
def spottedScript : SuiteScript where
  responses := [.returned (.ofBody 200 "1.0"), .returned (.ofBody 404 "")]
  deletions := [.returned (), .failed (.serialization "lost")]

/-- A run in which one unit passes, and the other one fails and loses its teardown as well. -/
theorem told_accounts_of_twins :
    (∃ report,
      ((rehearsal.runUnits .rehearsal "S" twinUnits).run spottedScript).1 = .ok report ∧
      prominent (rehearsal.told .rehearsal "S" twinUnits spottedScript) =
        report.units.flatMap UnitReport.account ++ [report.closing]) ∧
    (prominent (rehearsal.told .rehearsal "S" twinUnits spottedScript)).map (·.message) =
      ["Start: S version[GET]: Once", "End: S version[GET]: Once [PASSED]",
        "Start: S version[GET]: Again", "fixture teardown failed: serialization error: lost",
        "assertion failed: expected status 200, got 404", "End: S version[GET]: Again [FAILED]",
        "suite finished"] := by
  obtain ⟨report, hresult, -, htold, -⟩ :=
    told_accounts rehearsal .rehearsal "S" twinUnits spottedScript (by decide +kernel)
  exact ⟨⟨report, hresult, htold⟩, by decide +kernel⟩

end SuiteRunner

end RestConformance
