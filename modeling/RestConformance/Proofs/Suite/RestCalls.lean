import Mathlib.Data.List.Forall2
import RestConformance.Proofs.Expansion
import RestConformance.Proofs.Notes
import RestConformance.Proofs.Suite.Coupling
import RestConformance.Proofs.Suite.History
import RestConformance.Proofs.Suite.Preservation
import RestConformance.Proofs.Suite.Requests
import RestConformance.Proofs.Suite.Script

/-!
# Requests of suites

A runner that manages its link over REST, with the executor of its cases, sends all it does through
that executor. For each case it asks for the connector, posts the link if the server took that,
sends the request of the case if the server took the link, and deletes the link in the end. The
answers decide the report.

## Main definitions

* `RestCall` – a request that the executor was given, and its answer;
* `SuiteRunner.restCalls` – the calls of the executor in a run;
* `Carries baseUrl event call` – the request that stands behind a call of a port;
* `RestAttempt` – the requests of a unit up to its teardown;
* `RestHistory` – a unit with its requests and its report.

## Main results

* `SuiteRunner.restCalls_carried` – each call of a port is one request;
* `SuiteRunner.restCalls_follow` – the requests of a run, and what they decide.
-/

namespace RestConformance

open RestFixtureClient

variable {σ : Type}

/-- A request that an executor was given, and its answer. -/
structure RestCall where
  request : Http.Request
  answer : Outcome Http.Failure Capture

/-- Whether the call is a deletion that crashed. -/
def RestCall.isCrashedDeletion : RestCall → Bool
  | ⟨⟨.delete, _, _⟩, .crashed _⟩ => true
  | _ => false

/-- The answer is a capture with a status from 200 to 299. -/
def IsAccepted (answer : Outcome Http.Failure Capture) : Prop :=
  ∃ capture, answer = .returned capture ∧ 200 ≤ capture.status.toNat ∧ capture.status.toNat ≤ 299

theorem isSuccess_iff {status : UInt16} :
    isSuccess status = true ↔ 200 ≤ status.toNat ∧ status.toNat ≤ 299 := by
  simp [isSuccess, UInt16.le_iff_toNat_le]

/-! ### Calls of ports as requests -/

/-- The request that stands behind a call of a port, and what its answer says of that of the
port. -/
def Carries (baseUrl : String) (event : SuiteEvent) (call : RestCall) : Prop :=
  match event with
  | .created connectorName answer =>
    call.request = createRequest baseUrl connectorName ∧
      ∀ link, answer = .returned link ↔ IsAccepted call.answer ∧ link = .ofConnector connectorName
  | .saved link answer =>
    call.request = saveRequest baseUrl link ∧ (answer = .returned () ↔ IsAccepted call.answer)
  | .requested request answer => call = ⟨request, answer⟩
  | .deleted name answer =>
    call.request = deleteRequest baseUrl name ∧ (answer = .returned () ↔ IsAccepted call.answer) ∧
      ∀ crash, answer = .crashed crash → call.answer = .crashed crash
  | .looked name _ => call.request = containsRequest baseUrl name

/-- An operation that succeeds with some statuses only returns where the server took the request. -/
theorem bind_expectSuccess_eq_returned (operation : String)
    (answer : Outcome Http.Failure Capture) :
    (answer.mapError FixtureFailure.request).bind (expectSuccess operation) = .returned () ↔
      IsAccepted answer := by
  cases answer with
  | returned capture =>
    show expectSuccess operation capture = _ ↔ _
    unfold expectSuccess IsAccepted
    by_cases h : isSuccess capture.status = true <;> simp [h, ← isSuccess_iff]
  | failed failure => exact ⟨nofun, nofun⟩
  | crashed crash => exact ⟨nofun, nofun⟩

theorem bind_expectSuccess_eq_crashed {operation : String}
    {answer : Outcome Http.Failure Capture} {crash : Crash}
    (h : (answer.mapError FixtureFailure.request).bind (expectSuccess operation) =
      .crashed crash) : answer = .crashed crash := by
  cases answer with
  | returned capture =>
    change expectSuccess operation capture = _ at h
    unfold expectSuccess at h
    split at h <;> cases h
  | failed failure => cases h
  | crashed crash' =>
    cases h
    rfl

theorem carries_created (baseUrl connectorName : String) (answer : Outcome Http.Failure Capture) :
    Carries baseUrl (.created connectorName
      (((answer.mapError .request).bind (expectSuccess "create link")).mapValue fun _ =>
        .ofConnector connectorName)) ⟨createRequest baseUrl connectorName, answer⟩ := by
  refine ⟨rfl, fun link => ?_⟩
  rw [← bind_expectSuccess_eq_returned "create link"]
  cases (answer.mapError FixtureFailure.request).bind (expectSuccess "create link") with
  | returned _ => simp [Outcome.mapValue, eq_comm]
  | failed failure => simp [Outcome.mapValue]
  | crashed crash => simp [Outcome.mapValue]

theorem carries_saved (baseUrl : String) (link : Link) (answer : Outcome Http.Failure Capture) :
    Carries baseUrl (.saved link ((answer.mapError .request).bind (expectSuccess "save link")))
      ⟨saveRequest baseUrl link, answer⟩ :=
  ⟨rfl, bind_expectSuccess_eq_returned _ answer⟩

theorem carries_deleted (baseUrl name : String) (answer : Outcome Http.Failure Capture) :
    Carries baseUrl (.deleted name ((answer.mapError .request).bind (expectSuccess "delete link")))
      ⟨deleteRequest baseUrl name, answer⟩ :=
  ⟨rfl, bind_expectSuccess_eq_returned _ answer, fun _ => bind_expectSuccess_eq_crashed⟩

/-! ### Units as requests -/

section Units

variable {fixture : LinkFixture} {baseUrl : String}

/-- The requests of a unit up to its teardown, with their answers. What is not sent is none. -/
structure RestAttempt (fixture : LinkFixture) (baseUrl : String) (testCase : TestCase) where
  create : RestCall
  save : Option RestCall
  exercise : Option RestCall
  create_asks : create.request.Asks .get baseUrl ("v1/connector/" ++ fixture.connectorName) none
  /-- The bytes that are posted are those of the document of the fixture. -/
  save_asks : ∀ call ∈ save, ∃ payload,
    call.request.Asks .post baseUrl "v1/link" (some payload) ∧
      (Utf8.decodeString? payload).bind Json.read? = some fixture.document
  exercise_asks : ∀ call ∈ exercise,
    call.request.Asks testCase.method baseUrl testCase.path testCase.body
  /-- The link is posted just if the server took the request for the connector. -/
  save_iff : save.isSome ↔ IsAccepted create.answer
  /-- The request of the case is sent just if the server took the link and the address is one of the
  web. -/
  exercise_iff : exercise.isSome ↔ (∃ call ∈ save, IsAccepted call.answer) ∧
    Http.MakesWebAddress baseUrl testCase.path

/-- The requests of a unit up to its teardown, in order. -/
def RestAttempt.calls {testCase : TestCase} (attempt : RestAttempt fixture baseUrl testCase) :
    List RestCall :=
  attempt.create :: (attempt.save.toList ++ attempt.exercise.toList)

/-- A unit that was run to its end, with its requests and its report. -/
structure RestHistory (fixture : LinkFixture) (baseUrl : String) where
  unit : TestUnit
  attempt : RestAttempt fixture baseUrl unit.testCase
  delete : RestCall
  report : UnitReport
  delete_asks : delete.request.Asks .delete baseUrl ("v1/link/" ++ fixture.name) none
  identifier_eq : report.identifier = unit.identifier
  /-- The unit passes just if the server took all that concerns the link and the validator the
  response. -/
  passed_iff : report.outcome = .passed ↔
    IsAccepted attempt.create.answer ∧ (∃ call ∈ attempt.save, IsAccepted call.answer) ∧
      (∃ call ∈ attempt.exercise, ∃ capture, call.answer = .returned capture ∧
        unit.testCase.validator capture = .returned ()) ∧
      IsAccepted delete.answer
  /-- The teardown went wrong just if the server did not take the deletion. -/
  teardownError_iff : report.teardownError.isSome ↔ ¬IsAccepted delete.answer

/-- The requests of a unit with their answers, in order. -/
def RestHistory.calls (history : RestHistory fixture baseUrl) : List RestCall :=
  history.attempt.calls ++ [history.delete]

/-- The requests that the ports of a unit send, with these answers. -/
def RestAttempt.ofAnswers {testCase : TestCase} (created : Outcome Http.Failure Capture)
    (saved requested : Option (Outcome Http.Failure Capture))
    (hsaved : saved.isSome ↔ IsAccepted created)
    (hrequested : requested.isSome ↔ (∃ answer ∈ saved, IsAccepted answer) ∧
      Http.MakesWebAddress baseUrl testCase.path) : RestAttempt fixture baseUrl testCase where
  create := ⟨createRequest baseUrl fixture.connectorName, created⟩
  save := saved.map
    (⟨saveRequest baseUrl (fixture.applyTo (.ofConnector fixture.connectorName)), ·⟩)
  exercise := requested.map (⟨.ofCase baseUrl testCase, ·⟩)
  create_asks := Http.Request.asks_resolvePath _ _ _ _
  save_asks := by
    intro call hcall
    obtain ⟨answer, -, rfl⟩ := Option.map_eq_some_iff.1 hcall
    exact ⟨_, Http.Request.asks_resolvePath _ _ _ _, fixture.read?_payload⟩
  exercise_asks := by
    intro call hcall
    obtain ⟨answer, -, rfl⟩ := Option.map_eq_some_iff.1 hcall
    exact Http.Request.ofCase_asks baseUrl testCase
  save_iff := by rwa [Option.isSome_map]
  exercise_iff := by
    rw [Option.isSome_map, hrequested]
    simp

/-- What is related to two lists one behind the other are two such lists. -/
theorem exists_of_forall₂_append {α β : Type} {R : α → β → Prop} {a b : List α} {l : List β}
    (h : List.Forall₂ R (a ++ b) l) :
    ∃ front back, List.Forall₂ R a front ∧ List.Forall₂ R b back ∧ l = front ++ back := by
  have hflip : List.Forall₂ (flip R) l (a ++ b) := h.flip
  exact ⟨l.take a.length, l.drop a.length, (List.forall₂_take_append l a b hflip).flip,
    (List.forall₂_drop_append l a b hflip).flip, (List.take_append_drop a.length l).symm⟩

/-- What is related to a member of a list is a member of the other one. -/
theorem exists_mem_of_forall₂ {α β : Type} {R : α → β → Prop} {a : α} {l : List α} {l' : List β}
    (h : List.Forall₂ R l l') (ha : a ∈ l) : ∃ b ∈ l', R a b := by
  obtain ⟨front, back, rfl⟩ := List.append_of_mem ha
  obtain ⟨front', rest, -, hrest, rfl⟩ := exists_of_forall₂_append h
  obtain ⟨b, back', hab, -, rfl⟩ := List.forall₂_cons_left_iff.1 hrest
  exact ⟨b, List.mem_append_right _ (List.mem_cons_self ..), hab⟩

/-- Behind a connector that the server took, the link of the fixture is posted. -/
theorem exists_of_carries_saved {connectorName : String} {link : Link}
    {answer : Outcome FixtureFailure Unit} {events : List SuiteEvent} {calls : List RestCall}
    (h : List.Forall₂ (Carries baseUrl) (.created connectorName (.returned link) ::
      .saved (fixture.applyTo link) answer :: events) calls) :
    ∃ created saved rest,
      calls = ⟨createRequest baseUrl connectorName, created⟩ ::
        ⟨saveRequest baseUrl (fixture.applyTo (.ofConnector connectorName)), saved⟩ :: rest ∧
      IsAccepted created ∧ (answer = .returned () ↔ IsAccepted saved) ∧
      List.Forall₂ (Carries baseUrl) events rest := by
  obtain ⟨⟨_, created⟩, _, ⟨rfl, hcreated⟩, hcalls, rfl⟩ := List.forall₂_cons_left_iff.1 h
  obtain ⟨⟨_, saved⟩, rest, ⟨rfl, hsaved⟩, hrest, rfl⟩ := List.forall₂_cons_left_iff.1 hcalls
  obtain ⟨haccepted, rfl⟩ := (hcreated link).1 rfl
  exact ⟨created, saved, rest, rfl, haccepted, hsaved, hrest⟩

/-- The requests that carry the calls of a unit up to its teardown. -/
theorem UnitCourse.requests {testCase : TestCase} {events : List SuiteEvent} {outcome : UnitOutcome}
    (h : UnitCourse fixture baseUrl testCase events outcome) {calls : List RestCall}
    (hcalls : List.Forall₂ (Carries baseUrl) events calls) :
    ∃ attempt : RestAttempt fixture baseUrl testCase, calls = attempt.calls ∧
      (outcome = .passed ↔ ∃ call ∈ attempt.exercise, ∃ capture, call.answer = .returned capture ∧
        testCase.validator capture = .returned ()) := by
  -- A unit gets as far as the creation, the save, the check of its request, or the answer to it.
  rcases h.stages with ⟨answer, rfl, hanswer, houtcome⟩ | ⟨link, answer, rfl, hanswer, houtcome⟩ |
    ⟨link, rfl, hforeign, houtcome⟩ | ⟨link, answer, rfl, hweb, hpassed⟩
  · obtain ⟨⟨_, created⟩, _, ⟨rfl, hcreated⟩, hrest, rfl⟩ := List.forall₂_cons_left_iff.1 hcalls
    cases hrest
    have hrefused : ¬IsAccepted created := fun haccepted =>
      hanswer _ ((hcreated _).2 ⟨haccepted, rfl⟩)
    exact ⟨.ofAnswers created none none (by simp [hrefused]) (by simp), rfl,
      by simp [houtcome, RestAttempt.ofAnswers]⟩
  · obtain ⟨created, saved, _, rfl, hcreated, hsaved, hrest⟩ := exists_of_carries_saved hcalls
    cases hrest
    have hrefused : ¬IsAccepted saved := fun haccepted => hanswer (hsaved.2 haccepted)
    exact ⟨.ofAnswers created (some saved) none (by simp [hcreated]) (by simp [hrefused]), rfl,
      by simp [houtcome, RestAttempt.ofAnswers]⟩
  · obtain ⟨created, saved, _, rfl, hcreated, hsaved, hrest⟩ := exists_of_carries_saved hcalls
    cases hrest
    exact ⟨.ofAnswers created (some saved) none (by simp [hcreated]) (by simp [hforeign]), rfl,
      by simp [houtcome, RestAttempt.ofAnswers]⟩
  · obtain ⟨created, saved, _, rfl, hcreated, hsaved, hrest⟩ := exists_of_carries_saved hcalls
    obtain ⟨_, _, rfl, hend, rfl⟩ := List.forall₂_cons_left_iff.1 hrest
    cases hend
    refine ⟨.ofAnswers created (some saved) (some answer) (by simp [hcreated])
      (by simp [hsaved.1 rfl, hweb]), rfl, ?_⟩
    simpa [RestAttempt.ofAnswers, TestCase.validate] using hpassed

/-- What is read or deleted is asked for without a body. -/
theorem RestHistory.body_eq_none (history : RestHistory fixture baseUrl) :
    ∀ call ∈ history.calls,
      call.request.method = .get ∨ call.request.method = .delete → call.request.body = none := by
  intro call hcall hmethod
  rcases List.mem_append.1 hcall with hattempt | hdeletion
  · rcases List.mem_cons.1 hattempt with rfl | hlater
    · exact history.attempt.create_asks.body_eq
    rcases List.mem_append.1 hlater with hsave | hexercise
    · obtain ⟨payload, hasks, -⟩ := history.attempt.save_asks call (Option.mem_toList.1 hsave)
      rw [hasks.method_eq] at hmethod
      rcases hmethod with h | h <;> cases h
    · have hasks := history.attempt.exercise_asks call (Option.mem_toList.1 hexercise)
      rw [hasks.body_eq]
      refine history.unit.testCase.body_eq_none ?_
      rw [← hasks.method_eq]
      rcases hmethod with h | h <;> rw [h] <;> rfl
  · rw [List.mem_singleton.1 hdeletion]
    exact history.delete_asks.body_eq

/-- A unit passes in the end just if it does up to its teardown and the link is deleted. -/
theorem UnitEnd.passed_iff {unit : TestUnit} {outcome : UnitOutcome}
    {deletion : Outcome FixtureFailure Unit} {report : UnitReport}
    (h : UnitEnd unit outcome deletion (.ok report)) :
    report.outcome = .passed ↔ outcome = .passed ∧ deletion = .returned () := by
  cases h with
  | clean durationMs => simp
  | spoiled failure durationMs hpassed => simp
  | kept failure durationMs hpassed => simp [hpassed]

theorem UnitEnd.teardownError_iff {unit : TestUnit} {outcome : UnitOutcome}
    {deletion : Outcome FixtureFailure Unit} {report : UnitReport}
    (h : UnitEnd unit outcome deletion (.ok report)) :
    report.teardownError.isSome ↔ ¬deletion = .returned () := by
  cases h <;> simp

/-- The history of a unit over REST, from the requests that carry its calls. -/
theorem UnitHistory.exists_rest (history : UnitHistory fixture baseUrl) {calls : List RestCall}
    (h : List.Forall₂ (Carries baseUrl) history.events calls) :
    ∃ rest : RestHistory fixture baseUrl, rest.unit = history.unit ∧
      rest.report = history.report ∧ calls = rest.calls := by
  obtain ⟨before, last, hbefore, hlast, rfl⟩ := exists_of_forall₂_append h
  obtain ⟨⟨_, deleted⟩, _, ⟨rfl, hdeleted, -⟩, hend, rfl⟩ := List.forall₂_cons_left_iff.1 hlast
  cases hend
  obtain ⟨attempt, rfl, hpassed⟩ := history.course.requests hbefore
  refine ⟨⟨history.unit, attempt, ⟨deleteRequest baseUrl fixture.name, deleted⟩, history.report,
    Http.Request.asks_resolvePath _ _ _ _, history.ending.identifier_eq, ?_, ?_⟩, rfl, rfl, rfl⟩
  · rw [history.ending.passed_iff, hpassed, hdeleted]
    constructor
    · rintro ⟨⟨call, hcall, hvalidated⟩, haccepted⟩
      obtain ⟨⟨save, hsave, htaken⟩, -⟩ := attempt.exercise_iff.1 (Option.isSome_of_mem hcall)
      exact ⟨attempt.save_iff.1 (Option.isSome_of_mem hsave), ⟨save, hsave, htaken⟩,
        ⟨call, hcall, hvalidated⟩, haccepted⟩
    · rintro ⟨-, -, hvalidated, haccepted⟩
      exact ⟨hvalidated, haccepted⟩
  · rw [history.ending.teardownError_iff, hdeleted]

/-- Histories that run one after another have their requests one after another. -/
theorem exists_restHistories {histories : List (UnitHistory fixture baseUrl)}
    {calls : List RestCall}
    (h : List.Forall₂ (Carries baseUrl) (histories.flatMap (·.events)) calls) :
    ∃ rest : List (RestHistory fixture baseUrl),
      rest.map (·.unit) = histories.map (·.unit) ∧
      rest.map (·.report) = histories.map (·.report) ∧ calls = rest.flatMap (·.calls) := by
  induction histories generalizing calls with
  | nil =>
    cases h
    exact ⟨[], rfl, rfl, rfl⟩
  | cons history histories ih =>
    obtain ⟨first, others, hfirst, hothers, rfl⟩ := exists_of_forall₂_append h
    obtain ⟨head, hunit, hreport, rfl⟩ := history.exists_rest hfirst
    obtain ⟨rest, hunits, hreports, rfl⟩ := ih hothers
    refine ⟨head :: rest, ?_, ?_, rfl⟩
    · rw [List.map_cons, List.map_cons, hunit, hunits]
    · rw [List.map_cons, List.map_cons, hreport, hreports]

end Units

namespace SuiteRunner

variable (execute : Executor (StateM σ)) (log : Logger (StateM σ)) (clock : StateM σ UInt64)
  (fixture : LinkFixture) (baseUrl : String)

/-- The executor, with a note of each request that it is given. -/
def notedExecutor : Executor (Noting RestCall σ) :=
  fun request => Noting.noted (fun _ answer => ⟨request, answer⟩) (execute request)

/-- The runner over REST, with a note of each request that its executor is given. -/
def notedOverRest : SuiteRunner (Noting RestCall σ) :=
  overRest (notedExecutor execute) (fun entry => Noting.silent (log entry)) (Noting.silent clock)
    fixture baseUrl

/-- The record and the notes of a recorded run: each call of a port is one request. -/
def IsCarried (world : List SuiteEvent × List RestCall × σ) : Prop :=
  List.Forall₂ (Carries baseUrl) world.1 world.2.1

variable {execute log clock fixture baseUrl}

theorem isCarried_append {events : List SuiteEvent} {calls : List RestCall} {s s' : σ}
    (h : IsCarried baseUrl (events, calls, s)) {event : SuiteEvent} {call : RestCall}
    (hcall : Carries baseUrl event call) :
    IsCarried baseUrl (events ++ [event], calls ++ [call], s') :=
  List.rel_append h (.cons hcall .nil)

/-- An operation of the fixture client is carried by its request. -/
theorem operation_keeps {α : Type} {event : Outcome FixtureFailure α → SuiteEvent}
    {request : Http.Request} {read : Outcome FixtureFailure Capture → Outcome FixtureFailure α}
    (hcarries : ∀ answer, Carries baseUrl (event (read (answer.mapError .request)))
      ⟨request, answer⟩) :
    Ensures (IsCarried baseUrl)
      (Noting.noted (fun _ => event) (do
        return read (← send (notedExecutor execute) (fun entry => Noting.silent (log entry))
          request)))
      fun _ => IsCarried baseUrl :=
  fun _ hworld => isCarried_append hworld (hcarries _)

theorem portsKeep_carried :
    PortsKeep (IsCarried baseUrl)
      (notedOverRest execute log clock fixture baseUrl).recorded where
  create connectorName := operation_keeps (carries_created baseUrl connectorName)
  save link := operation_keeps (carries_saved baseUrl link)
  delete name := operation_keeps (carries_deleted baseUrl name)
  log _ := fun _ hworld => hworld
  clock := fun _ hworld => hworld

theorem runUnits_carried (stamp : RunStamp) (suite : String) (units : List TestUnit) (s : σ) :
    IsCarried baseUrl (((notedOverRest execute log clock fixture baseUrl).recorded.runUnits stamp
      suite units).run ([], [], s)).2 := by
  have hports : PortsKeep (IsCarried baseUrl)
      (notedOverRest execute log clock fixture baseUrl).recorded := portsKeep_carried
  refine hports.runUnits (fun unit => ?_) stamp suite units _ .nil
  exact hports.guarded unit fun _ world hworld => isCarried_append hworld rfl

/-- What the executor is given in a run, with its answers. -/
def restCalls (execute : Executor (StateM σ)) (log : Logger (StateM σ)) (clock : StateM σ UInt64)
    (fixture : LinkFixture) (baseUrl : String) (stamp : RunStamp) (suite : String)
    (registry : List TestCase) (s : σ) : List RestCall :=
  (((notedOverRest execute log clock fixture baseUrl).run stamp suite registry).run ([], s)).2.1

section Run

variable (execute : Executor (StateM σ)) (log : Logger (StateM σ)) (clock : StateM σ UInt64)
  (fixture : LinkFixture) (baseUrl : String) (stamp : RunStamp) (suite : String)

/-- Notes of the requests change nothing else about a run. -/
theorem notedOverRest_coupled :
    PortsCoupled (fun world s => world.2 = s) (notedOverRest execute log clock fixture baseUrl)
      (overRest execute log clock fixture baseUrl) :=
  overRest_coupled (fun _ => Noting.noted_coupled _ _) (fun _ => Noting.silent_coupled _) _ _
    fixture rfl

/-- Each call of a port in a run is carried by one request of its executor. -/
theorem restCalls_carried {registry : List TestCase} {units : List TestUnit}
    (hexpand : expand suite registry = .ok units) (s : σ) :
    List.Forall₂ (Carries baseUrl)
      ((notedOverRest execute log clock fixture baseUrl).unitsTrace stamp suite units ([], s))
      (restCalls execute log clock fixture baseUrl stamp suite registry s) := by
  let runner := notedOverRest execute log clock fixture baseUrl
  -- The record and the notes are of the same run.
  have hstate := (runner.recorded_coupled.runUnits (Noting.silent_coupled _) stamp suite units
    ([], [], s) _ rfl).2
  have hrun : restCalls execute log clock fixture baseUrl stamp suite registry s =
      ((runner.runUnits stamp suite units).run ([], s)).2.1 := by
    unfold restCalls run
    rw [hexpand]
    rfl
  rw [hrun, ← hstate]
  exact runUnits_carried stamp suite units s

/-- The requests of a suite over REST, if no deletion crashes. For each case in turn the connector
is asked for; the link is posted if that succeeded; the request of the case is sent if the link was
taken and its address is one of the web; and the link is deleted. The report is on these units, and
nothing that is read or deleted is asked for with a body. -/
theorem restCalls_follow {registry : List TestCase} {units : List TestUnit}
    (hexpand : expand suite registry = .ok units) (s : σ)
    (hdeletions : ∀ call ∈ restCalls execute log clock fixture baseUrl stamp suite registry s,
      call.isCrashedDeletion = false) :
    ∃ (histories : List (RestHistory fixture baseUrl)) (durationMs : UInt64),
      histories.map (·.unit) = units ∧ histories.map (·.unit.testCase) = registry ∧
      restCalls execute log clock fixture baseUrl stamp suite registry s =
        histories.flatMap (·.calls) ∧
      (((overRest execute log clock fixture baseUrl).run stamp suite registry).run s).1 =
        .returned (.ofUnits stamp suite (histories.map (·.report)) durationMs) ∧
      ∀ call ∈ restCalls execute log clock fixture baseUrl stamp suite registry s,
        call.request.method = .get ∨ call.request.method = .delete → call.request.body = none := by
  have hcarried := restCalls_carried execute log clock fixture baseUrl stamp suite hexpand s
  rcases (notedOverRest execute log clock fixture baseUrl).runUnits_cases stamp suite units ([], s)
    with ⟨histories, durationMs, hunits, htrace, hresult⟩ | ⟨histories, loss, rest, -, htrace, -⟩
  · rw [htrace] at hcarried
    obtain ⟨rest, hrest, hreports, hcalls⟩ :=
      @exists_restHistories fixture baseUrl histories _ hcarried
    have hrun := run_of_expand (notedOverRest execute log clock fixture baseUrl) stamp suite hexpand
      ([], s)
    have hsame := ((notedOverRest_coupled execute log clock fixture baseUrl).run
      (Noting.silent_coupled _) stamp suite registry ([], s) s rfl).1
    have hrestUnits : rest.map (·.unit) = units := hrest.trans hunits
    refine ⟨rest, durationMs, hrestUnits, ?_, hcalls, ?_, ?_⟩
    · rw [← map_testCase_of_expand hexpand, ← hrestUnits, List.map_map]
      rfl
    · rw [← hsame, hrun, hresult, hreports]
      rfl
    · intro call hcall
      rw [hcalls] at hcall
      obtain ⟨history, -, hmem⟩ := List.mem_flatMap.1 hcall
      exact history.body_eq_none call hmem
  -- A teardown that crashed is carried by a request that did.
  · rw [htrace] at hcarried
    obtain ⟨⟨_, _⟩, hcall, ⟨rfl, -, hcrash⟩⟩ :=
      exists_mem_of_forall₂ hcarried (List.mem_append_right _ loss.crashed_mem_events)
    obtain rfl := hcrash _ rfl
    cases hdeletions _ hcall

end Run

/-- An executor that reads its answers from a list, and answers by an empty response of status 200
behind its end. -/
def reading : Executor (StateM (List (Outcome Http.Failure Capture))) :=
  fun _ => modifyGet fun answers => (answers.headD (.returned (.ofBody 200 "")), answers.tail)

/-- The request of the first case crashes, and its link is not deleted. For the second case there is
no connector. The third case gets what it asks for. -/
def unevenAnswers : List (Outcome Http.Failure Capture) :=
  [.returned (.ofBody 200 ""), .returned (.ofBody 299 ""), .crashed ⟨none⟩,
    .returned (.ofBody 500 "locked"), .returned (.ofBody 304 "")]

/-- The requests that get these answers. -/
def unevenCalls : List RestCall :=
  restCalls reading (fun _ => pure ()) (pure 0) .standard "http://[::1]/" .rehearsal "S"
    Registry.rehearsal unevenAnswers

/-- With these answers two requests of the second case are not sent. -/
theorem restCalls_follow_uneven :
    expand "S" Registry.rehearsal = .ok (Registry.rehearsal.map (TestUnit.ofCase "S")) ∧
      unevenCalls.map (fun call => (call.request.method, call.request.url)) =
        [(.get, "http://[::1]/v1/connector/generic-jdbc-connector"),
          (.post, "http://[::1]/v1/link"), (.post, "http://[::1]/version"),
          (.delete, "http://[::1]/v1/link/first-link"),
          (.get, "http://[::1]/v1/connector/generic-jdbc-connector"),
          (.delete, "http://[::1]/v1/link/first-link"),
          (.get, "http://[::1]/v1/connector/generic-jdbc-connector"),
          (.post, "http://[::1]/v1/link"), (.get, "http://[::1]/version"),
          (.delete, "http://[::1]/v1/link/first-link")] ∧
      (unevenCalls.filter (·.request.url ≠ "http://[::1]/v1/link")).map (·.request.body) =
        [none, some [0x48, 0x69], none, none, none, none, none, none] ∧
      (((overRest reading (fun _ => pure ()) (pure 0) .standard "http://[::1]/").run .rehearsal "S"
          Registry.rehearsal).run unevenAnswers).1 =
        .returned (.ofUnits .rehearsal "S"
          [⟨"S /version[POST]: Send", .fatal "unit panicked: unknown panic", 0,
              some "delete link returned status 500: locked"⟩,
            ⟨"S version[GET]: Read",
              .fatal "fixture setup failed: create link returned status 304: ", 0, none⟩,
            ⟨"S version[GET]: Read once more", .passed, 0, none⟩] 0) ∧
      ∃ histories : List (RestHistory .standard "http://[::1]/"),
        histories.map (·.unit) = Registry.rehearsal.map (TestUnit.ofCase "S") ∧
        unevenCalls = histories.flatMap (·.calls) ∧
        ∀ history ∈ histories, ∀ call ∈ history.attempt.save,
          call.request.url = "http://[::1]/v1/link" ∧ ∃ payload, call.request.body = some payload ∧
            (Utf8.decodeString? payload).bind Json.read? = some (.object [("link", .object
              [("name", .string "first-link"),
                ("connector-name", .string "generic-jdbc-connector"), ("enabled", .bool true),
                ("link-config-values", .object [("configs", .array [.object
                  [("name", .string "linkConfig"), ("inputs", .array
                    [.object [("name", .string "linkConfig.connectionString"), ("value",
                        .string "jdbc:derby:memory:invalid-rest-calls-test;create=true")],
                      .object [("name", .string "linkConfig.jdbcDriver"),
                        ("value", .string "org.apache.derby.jdbc.ClientDriver")],
                      .object [("name", .string "linkConfig.password"),
                        ("value", .string "is-awesome")],
                      .object [("name", .string "linkConfig.username"),
                        ("value", .string "sqoop")]])]])])])]) := by
  have hexpand : expand "S" Registry.rehearsal =
      .ok (Registry.rehearsal.map (TestUnit.ofCase "S")) :=
    expand_eq_ok_iff.2 ⟨by decide, by decide +kernel, rfl⟩
  refine ⟨hexpand, by decide +kernel, by decide +kernel, by decide +kernel, ?_⟩
  obtain ⟨histories, -, hunits, -, hcalls, -, -⟩ :=
    restCalls_follow reading (fun _ => pure ()) (pure 0) .standard "http://[::1]/" .rehearsal "S"
      hexpand unevenAnswers (by decide +kernel)
  refine ⟨histories, hunits, hcalls, fun history _ call hcall => ?_⟩
  obtain ⟨payload, hasks, hread⟩ := history.attempt.save_asks call hcall
  have hurl : call.request.url = "http://[::1]/v1/link" :=
    (Http.isJoin_iff.1 hasks.isJoin).trans (by decide +kernel)
  exact ⟨hurl, payload, hasks.body_eq, hread⟩

end SuiteRunner

end RestConformance
