import RestConformance.Proofs.Suite.History
import RestConformance.Proofs.Suite.Script
import RestConformance.Registry

/-!
# Crashes of deletions

Crashes of all ports but one stay in the unit in which they happen. A crash of a deletion leaves the
run: there is no report then, and the units behind the one whose deletion crashed are not begun.

## Main results

* `SuiteRunner.runUnits_complete_iff` – a run reports on all its units just if no deletion crashes;
* `SuiteRunner.crashed_deletion_loses_units` – a run that one deletion takes down.
-/

namespace RestConformance

namespace SuiteRunner

variable {σ : Type} (runner : SuiteRunner (StateM σ)) (stamp : RunStamp) (suite : String)

/-- A run has a report on each of its units, in order, just if no deletion crashes. A deletion that
crashes is the last call of the run, its crash takes the place of the report, and the units behind
are lost. -/
theorem runUnits_complete_iff (units : List TestUnit) (s : σ) :
    ((∃ report, ((runner.runUnits stamp suite units).run s).1 = .ok report ∧
        report.units.map (·.identifier) = units.map (·.identifier)) ↔
      ∀ event ∈ runner.unitsTrace stamp suite units s, event.isCrashedDeletion = false) ∧
    ∀ name crash,
      SuiteEvent.deleted name (.crashed crash) ∈ runner.unitsTrace stamp suite units s →
      ((runner.runUnits stamp suite units).run s).1 = .error crash ∧
      ∃ (histories : List (UnitHistory runner.fixture runner.baseUrl))
        (loss : UnitLoss runner.fixture runner.baseUrl) (rest : List TestUnit),
        loss.crash = crash ∧
        units = histories.map (·.unit) ++ loss.unit :: rest ∧
        runner.unitsTrace stamp suite units s = histories.flatMap (·.events) ++ loss.events := by
  rcases runner.runUnits_cases stamp suite units s with
    ⟨histories, durationMs, hunits, htrace, hresult⟩ |
    ⟨histories, loss, rest, hunits, htrace, hresult⟩
  · have hclean : ∀ event ∈ runner.unitsTrace stamp suite units s,
        event.isCrashedDeletion = false := by
      rw [htrace]
      exact histories_not_crashed histories
    refine ⟨⟨fun _ => hclean, fun _ => ⟨_, hresult, ?_⟩⟩, fun name crash hmem => ?_⟩
    · rw [← hunits]
      exact identifier_histories histories
    · exact absurd (hclean _ hmem) (by simp [SuiteEvent.isCrashedDeletion])
  · rw [hresult]
    refine ⟨⟨?_, fun hclean => ?_⟩, fun name crash hmem => ?_⟩
    · rintro ⟨_, hok, _⟩
      cases hok
    · rw [htrace] at hclean
      exact absurd hclean loss.not_clean
    · rw [htrace] at hmem
      have hcrash := eq_of_mem_lost histories loss hmem rfl
      injection hcrash with _ hanswer
      injection hanswer with hcrash
      rw [hcrash]
      exact ⟨rfl, histories, loss, rest, rfl, hunits, htrace⟩

/-- Two units that would both pass but for the first deletion. -/
def twinUnits : List TestUnit :=
  [.ofCase "S" (Registry.reading "Once" "version" (.status 200)),
    .ofCase "S" (Registry.reading "Again" "version" (.status 200))]

/-- The script whose first deletion crashes. -/
def crashingScript : SuiteScript where
  deletions := [.crashed ⟨some "delete blew up"⟩]

/-- The deletion of the first unit crashes. The run has no report on either unit, and no link is
created for the second one. -/
theorem crashed_deletion_loses_units :
    (¬ ∃ report,
      ((rehearsal.runUnits .rehearsal "S" twinUnits).run crashingScript).1 = .ok report ∧
      report.units.map (·.identifier) = twinUnits.map (·.identifier)) ∧
    (rehearsal.unitsTrace .rehearsal "S" twinUnits crashingScript).drop 3 =
      [.deleted "first-link" (.crashed ⟨some "delete blew up"⟩)] := by
  refine ⟨?_, by decide +kernel⟩
  rintro ⟨report, hreport, -⟩
  have hlost :
      ((rehearsal.runUnits .rehearsal "S" twinUnits).run crashingScript).1.isOk = false := by
    decide +kernel
  rw [hreport] at hlost
  cases hlost

end SuiteRunner

end RestConformance
