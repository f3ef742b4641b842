import Mathlib.Data.List.Forall2
import RestConformance.Proofs.Expansion
import RestConformance.Proofs.Suite.History
import RestConformance.Proofs.Suite.Requests
import RestConformance.Proofs.Suite.Script

/-!
# Bracketing

The calls of a run fall into one block for each case, in the order of the registry. A block starts
by the creation of the link and ends by its deletion. Between the two a call is made only if the one
before it returned.

## Main definitions

* `UnitBlock` – the calls of one unit, from the creation to the deletion.

## Main results

* `SuiteRunner.trace_brackets` – the calls of a run are blocks, up to the first deletion that
  crashes.
-/

namespace RestConformance

section Rules

variable (fixture : LinkFixture) (baseUrl : String)

/-- The calls of one unit. The link that is saved is the one that was created, with the fixture
applied to it; the request is that of the case. Each rule ends with the deletion, whatever is
answered to it. -/
inductive UnitBlock (testCase : TestCase) : List SuiteEvent → Prop where
  | notCreated (answer : Outcome FixtureFailure Link) (deletion : Outcome FixtureFailure Unit)
    (hanswer : ∀ link, answer ≠ .returned link) :
    UnitBlock testCase [.created fixture.connectorName answer, .deleted fixture.name deletion]
  | notSaved (link applied : Link) (answer deletion : Outcome FixtureFailure Unit)
    (happlied : fixture.IsAppliedTo link applied) (hanswer : answer ≠ .returned ()) :
    UnitBlock testCase [.created fixture.connectorName (.returned link), .saved applied answer,
      .deleted fixture.name deletion]
  | rejected (link applied : Link) (deletion : Outcome FixtureFailure Unit)
    (happlied : fixture.IsAppliedTo link applied)
    (hforeign : ¬Http.MakesWebAddress baseUrl testCase.path) :
    UnitBlock testCase [.created fixture.connectorName (.returned link),
      .saved applied (.returned ()), .deleted fixture.name deletion]
  | sent (link applied : Link) (request : Http.Request) (answer : Outcome Http.Failure Capture)
    (deletion : Outcome FixtureFailure Unit) (happlied : fixture.IsAppliedTo link applied)
    (hrequest : request.Asks testCase.method baseUrl testCase.path testCase.body)
    (hweb : Http.MakesWebAddress baseUrl testCase.path) :
    UnitBlock testCase [.created fixture.connectorName (.returned link),
      .saved applied (.returned ()), .requested request answer, .deleted fixture.name deletion]

end Rules

variable {fixture : LinkFixture} {baseUrl : String}

/-- The calls of a unit make a block with the deletion that follows. -/
theorem UnitCourse.block {testCase : TestCase} {calls : List SuiteEvent} {outcome : UnitOutcome}
    (h : UnitCourse fixture baseUrl testCase calls outcome)
    (deletion : Outcome FixtureFailure Unit) :
    UnitBlock fixture baseUrl testCase (calls ++ [.deleted fixture.name deletion]) := by
  rcases h.stages with ⟨answer, rfl, hanswer, -⟩ | ⟨link, answer, rfl, hanswer, -⟩ |
    ⟨link, rfl, hforeign, -⟩ | ⟨link, answer, rfl, hweb, -⟩
  · exact .notCreated answer deletion hanswer
  · exact .notSaved link _ answer deletion (fixture.isAppliedTo_applyTo link) hanswer
  · exact .rejected link _ deletion (fixture.isAppliedTo_applyTo link) hforeign
  · exact .sent link _ _ answer deletion (fixture.isAppliedTo_applyTo link)
      (Http.Request.ofCase_asks baseUrl testCase) hweb

section Histories

variable (histories : List (UnitHistory fixture baseUrl))

/-- The histories of units are blocks of their cases. -/
theorem forall₂_block_histories :
    List.Forall₂ (UnitBlock fixture baseUrl) (histories.map (·.unit.testCase))
      (histories.map (·.events)) := by
  rw [List.forall₂_map_left_iff, List.forall₂_map_right_iff, List.forall₂_same]
  intro history _
  exact history.course.block history.deletion

/-- Behind histories, only the deletion of a unit that is lost can have crashed. -/
theorem crashed_deletion_index (loss : UnitLoss fixture baseUrl) {k : Nat} {event : SuiteEvent}
    (hevent : ((histories.flatMap (·.events) ++ loss.events).filter (·.isDeletion))[k]? =
      some event)
    (hcrashed : event.isCrashedDeletion = true) : k = histories.length := by
  -- The deletions are one a unit, so the place of a deletion is that of its unit.
  rw [UnitLoss.events, List.filter_append, filter_isDeletion_histories, loss.filter_eventsWith]
    at hevent
  rcases Nat.lt_or_ge k histories.length with hlt | hge
  · rw [List.getElem?_append_left (by simpa using hlt), List.getElem?_map] at hevent
    obtain ⟨history, _, rfl⟩ := Option.map_eq_some_iff.1 hevent
    rw [history.ending.not_crashed] at hcrashed
    cases hcrashed
  · rw [List.getElem?_append_right (by simpa using hge), List.length_map] at hevent
    have hbound := (List.getElem?_eq_some_iff.1 hevent).1
    rw [List.length_singleton] at hbound
    omega

end Histories

namespace SuiteRunner

variable {σ : Type} (runner : SuiteRunner (StateM σ)) (stamp : RunStamp) (suite : String)

/-- A registry without units has no calls. Otherwise the calls are the blocks of the first cases,
one behind the other. They are the blocks of all cases if no deletion crashes, and if one does, its
block is the last. -/
theorem trace_brackets (registry : List TestCase) (s : σ) :
    (∀ error, expand suite registry = .error error →
      runner.trace stamp suite registry s = []) ∧
    ∀ units, expand suite registry = .ok units → ∃ blocks : List (List SuiteEvent),
      runner.trace stamp suite registry s = blocks.flatten ∧
      List.Forall₂ (UnitBlock runner.fixture runner.baseUrl) (registry.take blocks.length)
        blocks ∧
      ((∀ event ∈ runner.trace stamp suite registry s, event.isCrashedDeletion = false) →
        blocks.length = registry.length) ∧
      ∀ k event,
        ((runner.trace stamp suite registry s).filter (·.isDeletion))[k]? = some event →
        event.isCrashedDeletion = true → blocks.length = k + 1 := by
  refine ⟨fun error herror => runner.trace_of_error stamp suite herror s, fun units hunits => ?_⟩
  rw [runner.trace_of_ok stamp suite hunits s, ← map_testCase_of_expand hunits]
  rcases runner.runUnits_cases stamp suite units s with
    ⟨histories, _, rfl, htrace, _⟩ | ⟨histories, loss, rest, rfl, htrace, _⟩
  · rw [htrace, List.map_map]
    refine ⟨histories.map (·.events), List.flatMap_def, ?_, fun _ => by simp, ?_⟩
    · rw [List.length_map, List.take_of_length_le (by simp)]
      exact forall₂_block_histories histories
    · intro k event hevent hcrashed
      have hmem := List.mem_of_mem_filter (List.mem_of_getElem? hevent)
      rw [histories_not_crashed histories event hmem] at hcrashed
      cases hcrashed
  · rw [htrace]
    refine ⟨histories.map (·.events) ++ [loss.events], ?_, ?_, fun hdeletions => ?_, ?_⟩
    · rw [List.flatten_append, List.flatten_singleton, List.flatMap_def]
    · have hcases : (histories.map (·.unit) ++ loss.unit :: rest).map (·.testCase) =
          histories.map (·.unit.testCase) ++ [loss.unit.testCase] ++ rest.map (·.testCase) := by
        simp
      rw [hcases, List.take_left' (by simp)]
      refine List.rel_append (forall₂_block_histories histories) (.cons ?_ .nil)
      exact loss.course.block (.crashed loss.crash)
    · exact absurd hdeletions loss.not_clean
    · intro k event hevent hcrashed
      rw [crashed_deletion_index histories loss hevent hcrashed]
      simp

/-- The first connector brings inputs of its own, the second one crashes the client, and so does the
second deletion. -/
def crowdedScript : SuiteScript where
  creations := [.returned ⟨"unnamed", "generic-jdbc-connector",
    .ofList [("linkConfig.username", "nobody"), ("extra.note", "kept")]⟩, .crashed ⟨none⟩]
  deletions := [.returned (), .crashed ⟨some "gone"⟩]

/-- Two blocks, the second one of two calls. There is none for the third case. -/
theorem trace_brackets_crowded :
    rehearsal.trace .rehearsal "S" Registry.rehearsal crowdedScript =
      [.created "generic-jdbc-connector" (.returned ⟨"unnamed", "generic-jdbc-connector",
          .ofList [("extra.note", "kept"), ("linkConfig.username", "nobody")]⟩),
        .saved ⟨"first-link", "generic-jdbc-connector", .ofList [("extra.note", "kept"),
          ("linkConfig.connectionString", "jdbc:derby:memory:invalid-rest-calls-test;create=true"),
          ("linkConfig.jdbcDriver", "org.apache.derby.jdbc.ClientDriver"),
          ("linkConfig.password", "is-awesome"), ("linkConfig.username", "sqoop")]⟩
          (.returned ()),
        .requested ⟨.post, "http://[::1]/version", some [0x48, 0x69]⟩
          (.returned ⟨200, "", ""⟩),
        .deleted "first-link" (.returned ()),
        .created "generic-jdbc-connector" (.crashed ⟨none⟩),
        .deleted "first-link" (.crashed ⟨some "gone"⟩)] ∧
    ∃ blocks : List (List SuiteEvent),
      rehearsal.trace .rehearsal "S" Registry.rehearsal crowdedScript = blocks.flatten ∧
      List.Forall₂ (UnitBlock .standard "http://[::1]/")
        (Registry.rehearsal.take blocks.length) blocks ∧
      blocks.length = 2 := by
  have hexpand : expand "S" Registry.rehearsal =
      .ok (Registry.rehearsal.map (TestUnit.ofCase "S")) :=
    expand_eq_ok_iff.2 ⟨by decide, by decide +kernel, rfl⟩
  obtain ⟨blocks, htrace, hblocks, -, hcrashed⟩ :=
    (trace_brackets rehearsal .rehearsal "S" Registry.rehearsal crowdedScript).2 _ hexpand
  have hdeletion : ((rehearsal.trace .rehearsal "S" Registry.rehearsal crowdedScript).filter
      (·.isDeletion))[1]? = some (.deleted "first-link" (.crashed ⟨some "gone"⟩)) := by
    decide +kernel
  exact ⟨by decide +kernel, blocks, htrace, hblocks, hcrashed 1 _ hdeletion rfl⟩

end SuiteRunner

end RestConformance
