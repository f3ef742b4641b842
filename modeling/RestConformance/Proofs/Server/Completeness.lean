import RestConformance.Harness
import RestConformance.Proofs.Expansion
import RestConformance.Proofs.Notes
import RestConformance.Proofs.Server.BaseAddress
import RestConformance.Proofs.Suite.History
import RestConformance.Proofs.Suite.Preservation

/-!
# Complete reports

A run with settings that were read has a report on each call of the registry, whatever the server
does. A client ends every call with a capture or a failure, so no deletion breaks off; the settings
name their suite, and no two calls of the registry have the same identifier.

## Main definitions

* `NeverCrashes x` – the call `x` returns or fails in every state.

## Main results

* `Http.Client.execute_neverCrashes` – a client sends no request that breaks off;
* `SuiteRunner.runUnits_complete` – where no deletion breaks off, each unit has its report;
* `Registry.nodup_identifiers` – in every suite the calls of the registry can be told apart;
* `Harness.run_complete` – the report of a run.
-/

namespace RestConformance

variable {σ α β ε φ : Type}

/-- The call returns or fails, whatever the state that it starts from. -/
def NeverCrashes (x : StateM σ (Outcome ε α)) : Prop :=
  ∀ s crash, (x.run s).1 ≠ .crashed crash

namespace NeverCrashes

theorem returned (a : α) : NeverCrashes (σ := σ) (ε := ε) (pure (.returned a)) :=
  fun _ _ => nofun

theorem failed (error : ε) : NeverCrashes (σ := σ) (α := α) (pure (.failed error)) :=
  fun _ _ => nofun

/-- What comes before the last step does not matter. -/
theorem after {x : StateM σ β} {f : β → StateM σ (Outcome ε α)} (hf : ∀ b, NeverCrashes (f b)) :
    NeverCrashes (x >>= f) :=
  fun _ => hf _ _

/-- What follows a call that never crashes need not mind its crashes. -/
theorem bind {x : StateM σ (Outcome φ β)} {f : Outcome φ β → StateM σ (Outcome ε α)}
    (hx : NeverCrashes x) (hreturned : ∀ b, NeverCrashes (f (.returned b)))
    (hfailed : ∀ error, NeverCrashes (f (.failed error))) : NeverCrashes (x >>= f) := by
  intro s
  show ∀ crash, ((f (x.run s).1).run (x.run s).2).1 ≠ .crashed crash
  cases hanswer : (x.run s).1 with
  | returned b => exact hreturned b _
  | failed error => exact hfailed error _
  | crashed crash => exact absurd hanswer (hx s crash)

end NeverCrashes

/-! ### Calls of the client -/

/-- A client answers every request with a capture or a failure. -/
theorem Http.Client.execute_neverCrashes (client : Http.Client (StateM σ))
    (request : Http.Request) : NeverCrashes (client.execute request) := by
  unfold Http.Client.execute
  refine .after fun answer => ?_
  cases answer with
  | error error => exact .failed _
  | ok credentials =>
    dsimp only
    split
    · exact .failed _
    · refine .after fun found => ?_
      cases found with
      | error failure => exact .failed failure
      | ok found =>
        dsimp only
        split
        · exact .failed _
        · exact .after fun _ => .after fun _ => .returned _

namespace RestFixtureClient

variable {execute : Executor (StateM σ)} {log : Logger (StateM σ)} {base : String}

theorem send_neverCrashes (h : ∀ request, NeverCrashes (execute request))
    (request : Http.Request) : NeverCrashes (send execute log request) := by
  exact .after fun _ => (h request).bind (fun _ => .returned _) fun _ => .failed _

theorem delete_neverCrashes (h : ∀ request, NeverCrashes (execute request)) (name : String) :
    NeverCrashes ((restFixtureClient execute log base).delete name) := by
  refine (send_neverCrashes h _).bind (fun capture => ?_) fun _ => .failed _
  show NeverCrashes (pure (expectSuccess "delete link" capture))
  unfold expectSuccess
  split
  · exact .returned ()
  · exact .failed _

theorem contains_neverCrashes (h : ∀ request, NeverCrashes (execute request)) (name : String) :
    NeverCrashes ((restFixtureClient execute log base).contains name) :=
  (send_neverCrashes h _).bind (fun _ => .returned _) fun _ => .failed _

end RestFixtureClient

/-! ### Units -/

namespace SuiteRunner

variable {runner : SuiteRunner (StateM σ)}

/-- No event is a deletion that crashed. -/
def IsClean (events : List SuiteEvent) : Prop :=
  ∀ event ∈ events, event.isCrashedDeletion = false

/-- A call that is none of the crashed deletions keeps a record clean. -/
theorem noted_keeps_clean {event : α → SuiteEvent} (x : StateM σ α)
    (h : ∀ s, (event (x.run s).1).isCrashedDeletion = false) :
    Ensures (fun world => IsClean world.1) (Noting.noted (fun _ => event) x)
      fun _ world => IsClean world.1 := by
  intro world hworld
  exact Noting.noted_keeps (Q := fun _ => True) x (fun s _ => h s) world ⟨hworld, trivial⟩

theorem recorded_keeps_clean (hdelete : ∀ name, NeverCrashes (runner.fixtures.delete name)) :
    PortsKeep (fun world : List SuiteEvent × σ => IsClean world.1) runner.recorded where
  create _ := noted_keeps_clean _ fun _ => rfl
  save _ := noted_keeps_clean _ fun _ => rfl
  delete name := by
    refine noted_keeps_clean _ fun s => ?_
    cases hanswer : ((runner.fixtures.delete name).run s).1 with
    | returned _ => rfl
    | failed _ => rfl
    | crashed crash => exact absurd hanswer (hdelete name s crash)
  log _ := Noting.silent_keeps _
  clock := Noting.silent_keeps _

/-- Where deletions never crash, the record of a run has no crashed deletion. -/
theorem unitsTrace_clean (hdelete : ∀ name, NeverCrashes (runner.fixtures.delete name))
    (stamp : RunStamp) (suite : String) (units : List TestUnit) (s : σ) :
    IsClean (runner.unitsTrace stamp suite units s) := by
  have hports := recorded_keeps_clean hdelete
  refine hports.runUnits (fun unit => ?_) stamp suite units ([], s) nofun
  exact hports.guarded unit fun _ => noted_keeps_clean _ fun _ => rfl

/-- Where deletions never crash, a run has a report on each of its units. -/
theorem runUnits_complete (hdelete : ∀ name, NeverCrashes (runner.fixtures.delete name))
    (stamp : RunStamp) (suite : String) (units : List TestUnit) (s : σ) :
    ∃ reports durationMs,
      ((runner.runUnits stamp suite units).run s).1 =
        .ok (.ofUnits stamp suite reports durationMs) ∧
      reports.map (·.identifier) = units.map (·.identifier) := by
  rcases runner.runUnits_cases stamp suite units s with
    ⟨histories, durationMs, rfl, -, hresult⟩ | ⟨histories, loss, rest, -, htrace, -⟩
  · exact ⟨_, durationMs, hresult, identifier_histories histories⟩
  · -- Units are lost to a deletion that crashed only, and there is none.
    have hclean := unitsTrace_clean hdelete stamp suite units s
    rw [htrace] at hclean
    exact (loss.not_clean hclean).elim

end SuiteRunner

/-! ### The registry -/

/-- The parts of a case make that case: none of them is refused. -/
theorem TestCase.build_parts (testCase : TestCase) :
    build testCase.name testCase.path testCase.method testCase.body testCase.validator =
      .ok testCase := by
  have hbody : admittedBody testCase.method testCase.body = .ok testCase.body := by
    unfold admittedBody
    cases hmethod : testCase.method.hasBody with
    | true => rfl
    | false =>
      rw [testCase.body_eq_none hmethod]
      rfl
  unfold build
  rw [dif_neg (by simp [testCase.name_not_blank])]
  split
  · next admitted hadmitted =>
    obtain rfl := Except.ok.inj (hbody.symm.trans hadmitted)
    rfl
  · next error hadmitted =>
    rw [hbody] at hadmitted
    cases hadmitted

theorem TestUnit.identifierOf_eq (suite : String) (testCase : TestCase) :
    identifierOf suite testCase = suite ++ identifierOf "" testCase := by
  simp only [identifierOf, String.append_assoc, String.empty_append]

/-- In every suite, no two calls of the registry have the same identifier. -/
theorem Registry.nodup_identifiers (suite : String) :
    (restCalls.map (TestUnit.identifierOf suite)).Nodup := by
  -- The name of the suite is only put before identifiers, so the empty one stands for all.
  have hcalls : (restCalls.map (TestUnit.identifierOf "")).Nodup := by
    decide +kernel
  have hsuite : restCalls.map (TestUnit.identifierOf suite) =
      (restCalls.map (TestUnit.identifierOf "")).map (suite ++ ·) := by
    rw [List.map_map]
    exact List.map_congr_left fun testCase _ => TestUnit.identifierOf_eq suite testCase
  rw [hsuite]
  exact hcalls.map fun _ _ => String.append_right_inj _ |>.1

/-- The registry has units in every suite whose name says something. -/
theorem Registry.expand_restCalls {suite : String} (h : isBlankString suite = false) :
    expand suite restCalls = .ok (restCalls.map (TestUnit.ofCase suite)) :=
  expand_eq_ok_iff.2 ⟨h, nodup_identifiers suite, rfl⟩

/-! ### Settings -/

namespace Settings

/-- Settings that are read name their suite. -/
theorem suiteName_not_blank {lookup : String → Option String} {settings : Settings}
    (h : read lookup = .ok settings) : isBlankString settings.suiteName = false :=
  (read_eq_ok_iff.1 h).suite_fits

end Settings

/-! ### Runs -/

namespace Harness

variable {settings : Settings}

theorem execute_neverCrashes (outside : Surroundings (StateM σ)) (settings : Settings)
    (request : Http.Request) : NeverCrashes ((client outside settings).execute request) :=
  Http.Client.execute_neverCrashes _ request

theorem checkLeftover_neverCrashes (outside : Surroundings (StateM σ)) (settings : Settings) :
    NeverCrashes (checkLeftover outside settings) := by
  have hcontains : ∀ name, NeverCrashes ((fixtures outside settings).contains name) :=
    RestFixtureClient.contains_neverCrashes (execute_neverCrashes outside settings)
  exact (hcontains _).bind (fun _ => .after fun _ => .returned _) fun _ =>
    .after fun _ => .failed _

/-- Whatever the last look finds, the run goes on to its report. -/
theorem checkLeftover_returns (outside : Surroundings (StateM σ)) (settings : Settings)
    (report : RunReport) :
    Ensures (fun _ => True) (do
      match ← checkLeftover outside settings with
      | .crashed crash => return .crashed crash
      | .returned _ | .failed _ => return .returned report)
      fun (answer : Outcome SuiteError RunReport) _ => answer = .returned report := by
  refine .bind (R := fun found _ => ∀ crash, found ≠ .crashed crash)
    (fun later _ => checkLeftover_neverCrashes outside settings later) fun found => ?_
  cases found with
  | crashed crash => exact fun _ hcrash => absurd rfl (hcrash crash)
  | returned found => exact .pure fun _ _ => rfl
  | failed failure => exact .pure fun _ _ => rfl

/-- A run whose suite has a report has that report itself. -/
theorem run_of_suite (outside : Surroundings (StateM σ)) {stamp : RunStamp} {s : σ}
    {report : RunReport}
    (h : (((runner outside settings).run stamp settings.suiteName Registry.restCalls).run
      ((outside.log (runningEntry settings)).run s).2).1 = .returned report) :
    ((run outside settings stamp).run s).1 = .returned report := by
  have hrun : Ensures (fun begun => begun = s) (run outside settings stamp)
      fun answer _ => answer = .returned report := by
    refine .bind (R := fun _ begun => begun = ((outside.log (runningEntry settings)).run s).2)
      (fun _ hs => by rw [hs]) fun _ => ?_
    refine .chain (R := fun answer _ => answer = .returned report) (fun _ hs => hs ▸ h)
      (fun found later heq => ?_) (fun _ _ heq => by cases heq) (fun _ _ heq => by cases heq)
    obtain rfl := Outcome.returned.inj heq
    exact checkLeftover_returns outside settings found later trivial
  exact hrun s rfl

/-- Whatever the files and the server are like, a run with settings that were read has a report. It
has one entry for each call of the registry, in order and under identifiers of suite, path, method
and name that are all different, and it is the report that the suite had before the last look. None
of the calls is malformed. -/
theorem run_complete {lookup : String → Option String} (h : Settings.read lookup = .ok settings)
    (outside : Surroundings (StateM σ)) (stamp : RunStamp) (s : σ) :
    ∃ reports durationMs,
      ((run outside settings stamp).run s).1 =
        .returned (.ofUnits stamp settings.suiteName reports durationMs) ∧
      reports.map (·.identifier) = Registry.restCalls.map (fun testCase => settings.suiteName ++
        " " ++ testCase.path ++ "[" ++ testCase.method.name ++ "]: " ++ testCase.name) ∧
      (reports.map (·.identifier)).Nodup ∧
      (((runner outside settings).run stamp settings.suiteName Registry.restCalls).run
        ((outside.log (runningEntry settings)).run s).2).1 =
          .returned (.ofUnits stamp settings.suiteName reports durationMs) ∧
      ∀ testCase ∈ Registry.restCalls,
        TestCase.build testCase.name testCase.path testCase.method testCase.body
          testCase.validator = .ok testCase := by
  have hdelete : ∀ name, NeverCrashes ((runner outside settings).fixtures.delete name) :=
    RestFixtureClient.delete_neverCrashes (execute_neverCrashes outside settings)
  obtain ⟨reports, durationMs, hunits, hidentifiers⟩ :=
    SuiteRunner.runUnits_complete hdelete stamp settings.suiteName
      (Registry.restCalls.map (TestUnit.ofCase settings.suiteName))
      ((outside.log (runningEntry settings)).run s).2
  have hexpand := Registry.expand_restCalls (Settings.suiteName_not_blank h)
  have hsuite := (runner outside settings).run_of_expand stamp _ hexpand
    ((outside.log (runningEntry settings)).run s).2
  rw [hunits] at hsuite
  rw [List.map_map] at hidentifiers
  refine ⟨reports, durationMs, run_of_suite outside hsuite, hidentifiers, ?_, hsuite,
    fun testCase _ => testCase.build_parts⟩
  rw [hidentifiers]
  exact Registry.nodup_identifiers _

/-- An outside whose server refuses the first connection, does not answer on the second, and drops
all others. -/
def moody : Surroundings (StateM Nat) where
  fileContent _ := pure (.error .missing)
  transport _ _ := do
    let count ← get
    set (count + 1)
    return match count with
      | 0 => .unreachable "connection refused"
      | 1 => .silent
      | _ => .dropped
  log _ := pure ()
  clock := pure 0

/-- With such a server there is a report on all calls, too. -/
theorem run_complete_moody :
    Settings.read (Settings.named "http://[::1]/") =
        .ok { Settings.standard with baseUrl := "http://[::1]/" } ∧
      ∃ reports durationMs,
        ((run moody { Settings.standard with baseUrl := "http://[::1]/" }
            ⟨"run", ⟨0, 0⟩⟩).run 0).1 =
          .returned (.ofUnits ⟨"run", ⟨0, 0⟩⟩ "restprobe::registry" reports durationMs) ∧
        reports.map (·.identifier) =
          Registry.restCalls.map (TestUnit.identifierOf "restprobe::registry") ∧
        (reports.take 3).map (·.identifier) = ["restprobe::registry version[GET]: Valid",
          "restprobe::registry version[POST]: Invalid post request",
          "restprobe::registry v1/connector/all[GET]: Get all connectors"] := by
  have hbase : Settings.readBaseUrl "http://[::1]/" = .ok "http://[::1]/" := by
    decide +kernel
  have hread := Settings.read_named hbase
  obtain ⟨reports, durationMs, hrun, hidentifiers, -⟩ :=
    run_complete hread moody ⟨"run", ⟨0, 0⟩⟩ 0
  refine ⟨hread, reports, durationMs, hrun, hidentifiers, ?_⟩
  rw [List.map_take, hidentifiers]
  decide +kernel

end Harness

end RestConformance
