import RestConformance.Report.Basic

/-!
# Counters and exit codes

Each unit is counted once, under its outcome, and the exit code tells the worst outcome there is.
So neither depends on the order of the units, and the units of two runs together have the counters
of both added up and the greater exit code.

## Main definitions

* `RunReport.Counters` – the counters of a report, which are added one by one;
* `RunReport.codeOf` – the exit code, by what kinds of outcomes there are.

## Main results

* `RunReport.Counters.passed_add_failed_add_fatal` – every unit is counted once;
* `RunReport.exitCode_of_counters_add` – where counters are added up, the greater exit code is left;
* `RunReport.ofUnits_accounts` – what the counters and the exit code tell of the units.
-/

namespace RestConformance

namespace UnitOutcome

variable {outcome : UnitOutcome}

theorem isPassed_iff : outcome.isPassed = true ↔ outcome = .passed := by
  cases outcome <;> simp [isPassed]

theorem isFailed_iff : outcome.isFailed = true ↔ ∃ failure, outcome = .failed failure := by
  cases outcome <;> simp [isFailed]

theorem isFatal_iff : outcome.isFatal = true ↔ ∃ reason, outcome = .fatal reason := by
  cases outcome <;> simp [isFatal]

end UnitOutcome

namespace RunReport

/-- The counters of a report. -/
structure Counters where
  total : Nat
  passed : Nat
  failed : Nat
  fatal : Nat
  deriving DecidableEq, Repr

instance : Add Counters where
  add a b := ⟨a.total + b.total, a.passed + b.passed, a.failed + b.failed, a.fatal + b.fatal⟩

namespace Counters

variable (units more : List UnitReport)

/-- The counters of some units. -/
def ofUnits : Counters :=
  ⟨units.length, units.countP (·.outcome.isPassed), units.countP (·.outcome.isFailed),
    units.countP (·.outcome.isFatal)⟩

theorem ofUnits_append : ofUnits (units ++ more) = ofUnits units + ofUnits more := by
  rw [ofUnits, List.length_append, List.countP_append, List.countP_append, List.countP_append]
  rfl

theorem ofUnits_of_perm {units more : List UnitReport} (h : units.Perm more) :
    ofUnits units = ofUnits more := by
  simp only [ofUnits, h.length_eq, h.countP_eq]

/-- Every unit is counted once, under its outcome. -/
theorem passed_add_failed_add_fatal :
    (ofUnits units).passed + (ofUnits units).failed + (ofUnits units).fatal =
      (ofUnits units).total := by
  induction units with
  | nil => rfl
  | cons unit rest ih =>
    have hunit : (if unit.outcome.isPassed then 1 else 0) +
        (if unit.outcome.isFailed then 1 else 0) + (if unit.outcome.isFatal then 1 else 0) = 1 := by
      cases unit.outcome <;> rfl
    simp only [ofUnits, List.countP_cons, List.length_cons] at ih ⊢
    omega

theorem fatal_pos_iff :
    0 < (ofUnits units).fatal ↔ ∃ unit ∈ units, ∃ reason, unit.outcome = .fatal reason := by
  simp only [ofUnits, List.countP_pos_iff, UnitOutcome.isFatal_iff]

theorem failed_pos_iff :
    0 < (ofUnits units).failed ↔ ∃ unit ∈ units, ∃ failure, unit.outcome = .failed failure := by
  simp only [ofUnits, List.countP_pos_iff, UnitOutcome.isFailed_iff]

theorem passed_eq_total_iff :
    (ofUnits units).passed = (ofUnits units).total ↔ ∀ unit ∈ units, unit.outcome = .passed := by
  simp only [ofUnits, List.countP_eq_length, UnitOutcome.isPassed_iff]

end Counters

/-- The counters of a report. -/
def counters (report : RunReport) : Counters :=
  ⟨report.total, report.passed, report.failed, report.fatal⟩

/-! ### Exit codes -/

section Codes

variable {first second report : RunReport}

/-- The exit code, by whether a unit was given up and whether an assertion failed. -/
def codeOf (fatal failed : Bool) : UInt8 :=
  if fatal then 2 else if failed then 1 else 0

theorem codeOf_or : ∀ fatal fatal' failed failed',
    codeOf (fatal || fatal') (failed || failed') =
      max (codeOf fatal failed) (codeOf fatal' failed') := by
  decide

theorem codeOf_eq_two_iff : ∀ fatal failed, codeOf fatal failed = 2 ↔ fatal = true := by
  decide

theorem codeOf_eq_one_iff : ∀ fatal failed,
    codeOf fatal failed = 1 ↔ fatal = false ∧ failed = true := by
  decide

theorem codeOf_eq_zero_iff : ∀ fatal failed,
    codeOf fatal failed = 0 ↔ fatal = false ∧ failed = false := by
  decide

theorem exitCode_eq (report : RunReport) :
    report.exitCode = codeOf (0 < report.fatal) (0 < report.failed) := by
  simp only [exitCode, codeOf, decide_eq_true_eq]

theorem allPassed_iff : report.allPassed = true ↔ report.failed = 0 ∧ report.fatal = 0 := by
  simp [allPassed]

/-- The exit code is zero where no unit is counted as failed or given up. -/
theorem exitCode_eq_zero_iff : report.exitCode = 0 ↔ report.allPassed = true := by
  rw [exitCode_eq, codeOf_eq_zero_iff, allPassed_iff]
  simp [and_comm]

/-- The exit code follows from the counters. -/
theorem exitCode_eq_of_counters (h : first.counters = second.counters) :
    first.exitCode = second.exitCode := by
  have hfailed : first.failed = second.failed := congrArg Counters.failed h
  have hfatal : first.fatal = second.fatal := congrArg Counters.fatal h
  rw [exitCode_eq, exitCode_eq, hfailed, hfatal]

/-- Where counters are added up, the greater exit code is left. -/
theorem exitCode_of_counters_add (h : report.counters = first.counters + second.counters) :
    report.exitCode = max first.exitCode second.exitCode := by
  have hfailed : report.failed = first.failed + second.failed := congrArg Counters.failed h
  have hfatal : report.fatal = first.fatal + second.fatal := congrArg Counters.fatal h
  have hpos : ∀ a b : Nat, decide (0 < a + b) = (decide (0 < a) || decide (0 < b)) := by
    intro a b
    rw [← Bool.decide_or]
    exact decide_eq_decide.2 Nat.add_pos_iff_pos_or_pos
  simp only [exitCode_eq, hfailed, hfatal, hpos, codeOf_or]

end Codes

/-- All units are counted and each under one outcome. That all passed is told where as many passed
as there are units, where each of them passed, and where the exit code is zero. The exit code is two
where a unit was given up, and one where none was but an assertion failed. The units of two reports
together have the sums of the counters and the greater exit code, and the order of the units does
not matter. -/
theorem ofUnits_accounts (stamp : RunStamp) (suiteName : String) (units : List UnitReport)
    (durationMs : UInt64) :
    let report := ofUnits stamp suiteName units durationMs
    report.total = units.length ∧
    report.passed + report.failed + report.fatal = report.total ∧
    (report.allPassed = true ↔ report.passed = report.total) ∧
    (report.allPassed = true ↔ ∀ unit ∈ units, unit.outcome = .passed) ∧
    (report.allPassed = true ↔ report.exitCode = 0) ∧
    (report.exitCode = 2 ↔ ∃ unit ∈ units, ∃ reason, unit.outcome = .fatal reason) ∧
    (report.exitCode = 1 ↔ (∀ unit ∈ units, ∀ reason, unit.outcome ≠ .fatal reason) ∧
      ∃ unit ∈ units, ∃ failure, unit.outcome = .failed failure) ∧
    (∀ more stamp' suiteName' durationMs' stamp'' suiteName'' durationMs'',
      let second := ofUnits stamp' suiteName' more durationMs'
      let both := ofUnits stamp'' suiteName'' (units ++ more) durationMs''
      both.counters = report.counters + second.counters ∧
        both.exitCode = max report.exitCode second.exitCode) ∧
    ∀ reordered stamp' suiteName' durationMs', reordered.Perm units →
      let other := ofUnits stamp' suiteName' reordered durationMs'
      other.counters = report.counters ∧ other.exitCode = report.exitCode := by
  intro report
  -- The counters of the report are those of its units.
  have hsum : report.passed + report.failed + report.fatal = report.total :=
    Counters.passed_add_failed_add_fatal units
  have hall : report.allPassed = true ↔ report.passed = report.total := by
    rw [allPassed_iff]
    omega
  have hfatal : 0 < report.fatal ↔ ∃ unit ∈ units, ∃ reason, unit.outcome = .fatal reason :=
    Counters.fatal_pos_iff units
  have hfailed : 0 < report.failed ↔ ∃ unit ∈ units, ∃ failure, unit.outcome = .failed failure :=
    Counters.failed_pos_iff units
  refine ⟨rfl, hsum, hall, ?_, exitCode_eq_zero_iff.symm, ?_, ?_, ?_, ?_⟩
  · exact hall.trans (Counters.passed_eq_total_iff units)
  · rw [exitCode_eq, codeOf_eq_two_iff, decide_eq_true_iff]
    exact hfatal
  · rw [exitCode_eq, codeOf_eq_one_iff, decide_eq_true_iff, decide_eq_false_iff_not, hfatal,
      hfailed]
    simp only [not_exists, not_and, ne_eq]
  · intro more stamp' suiteName' durationMs' stamp'' suiteName'' durationMs'' second both
    have hcounters : both.counters = report.counters + second.counters :=
      Counters.ofUnits_append units more
    exact ⟨hcounters, exitCode_of_counters_add hcounters⟩
  · intro reordered stamp' suiteName' durationMs' hperm other
    have hcounters : other.counters = report.counters := Counters.ofUnits_of_perm hperm
    exact ⟨hcounters, exitCode_eq_of_counters hcounters⟩

/-- One unit of each outcome, the worst one in the middle. -/
def mixedUnits : List UnitReport :=
  [⟨"first", .failed (.statusMismatch 200 500), 3, none⟩, ⟨"second", .fatal "timed out", 5, none⟩,
    ⟨"third", .passed, 2, some "left behind"⟩]

/-- The same units the other way round, at another time. -/
theorem ofUnits_accounts_of_mixed :
    mixedUnits.reverse.Perm mixedUnits ∧
      (ofUnits ⟨"again", ⟨9, 0⟩⟩ "S" mixedUnits.reverse 12).counters = ⟨3, 1, 1, 1⟩ ∧
      (ofUnits ⟨"again", ⟨9, 0⟩⟩ "S" mixedUnits.reverse 12).exitCode = 2 := by
  have hperm : mixedUnits.reverse.Perm mixedUnits := List.reverse_perm _
  obtain ⟨-, -, -, -, -, htwo, -, -, hreordered⟩ :=
    ofUnits_accounts ⟨"run", ⟨0, 0⟩⟩ "S" mixedUnits 10
  obtain ⟨hcounters, hcode⟩ := hreordered mixedUnits.reverse ⟨"again", ⟨9, 0⟩⟩ "S" 12 hperm
  have hfatal : ∃ unit ∈ mixedUnits, ∃ reason, unit.outcome = .fatal reason :=
    ⟨_, List.mem_cons_of_mem _ List.mem_cons_self, "timed out", rfl⟩
  exact ⟨hperm, hcounters, hcode.trans (htwo.2 hfatal)⟩

end RunReport

end RestConformance
