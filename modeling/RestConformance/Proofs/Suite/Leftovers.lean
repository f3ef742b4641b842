import RestConformance.Proofs.Notes
import RestConformance.Proofs.Suite.LinkServer
import RestConformance.Proofs.Suite.Preservation
import RestConformance.Registry

/-!
# No link is left behind

Every unit of a run takes the link of the fixture away and touches no other one, also where a saving
left its link behind and failed all the same. A request of a case is only sent while that link is
there.

## Main definitions

* `HoldsLinks names runner` – besides `KeepsLinks`, a saving that returns has added its link;
* `SuiteRunner.statesAfter` – the states that the units of a run leave, one after another;
* `SuiteRunner.sightings` – the requests of a run, each with the names at the time it is sent.

## Main results

* `HoldsLinks.setUp_watched` – where the set-up returns, the link of the fixture is there;
* `HoldsLinks.runUnits_removes_fixture` – what the units of a run leave, and when its requests are
  sent.
-/

namespace RestConformance

variable {σ : Type}

/-- The ports of a runner over a server whose links have the names `names`. A saving that returns
has added its link; one that fails or crashes may have done so or not. -/
structure HoldsLinks (names : σ → Finset String) (runner : SuiteRunner (StateM σ)) : Prop extends
    KeepsLinks names runner where
  saved : ∀ link, Ensures (fun _ => True) (runner.fixtures.save link) fun answer s =>
    answer = .returned () → link.name ∈ names s

namespace SuiteRunner

/-! ### The states between the units -/

/-- The states that units leave that run one after another, until the first crash of a deletion. -/
def statesAfter (runner : SuiteRunner (StateM σ)) : List TestUnit → σ → List σ
  | [], _ => []
  | unit :: rest, s =>
    let (result, s') := (runner.runUnit unit).run s
    s' :: match result with
      | .ok _ => runner.statesAfter rest s'
      | .error _ => []

theorem statesAfter_cons_ok (runner : SuiteRunner (StateM σ)) {unit : TestUnit}
    {report : UnitReport} {s s' : σ} (h : (runner.runUnit unit).run s = (.ok report, s'))
    (rest : List TestUnit) :
    runner.statesAfter (unit :: rest) s = s' :: runner.statesAfter rest s' := by
  rw [statesAfter, h]

/-- A run of units ends in the last of the states that they leave. -/
theorem runEach_state (runner : SuiteRunner (StateM σ)) (units : List TestUnit) (s : σ) :
    ((runner.runEach units).run s).2 = (runner.statesAfter units s).getLastD s := by
  induction units generalizing s with
  | nil => rfl
  | cons unit rest ih =>
    show ((runner.runUnit unit >>= _).run s).2 = _
    rw [StateT.run_bind, statesAfter]
    rcases (runner.runUnit unit).run s with ⟨result, s'⟩
    cases result with
    | error crash => rfl
    | ok report =>
      rw [List.getLastD_cons]
      exact ih s'

/-! ### Requests under watch -/

/-- The runner, with a note of each request that is sent and of the names at that time. -/
def watched (names : σ → Finset String) (runner : SuiteRunner (StateM σ)) :
    SuiteRunner (Noting (Http.Request × Finset String) σ) where
  execute request := Noting.noted (fun s _ => (request, names s)) (runner.execute request)
  fixtures :=
    { create := fun connectorName => Noting.silent (runner.fixtures.create connectorName)
      save := fun link => Noting.silent (runner.fixtures.save link)
      delete := fun name => Noting.silent (runner.fixtures.delete name)
      contains := fun name => Noting.silent (runner.fixtures.contains name) }
  log entry := Noting.silent (runner.log entry)
  clock := Noting.silent runner.clock
  fixture := runner.fixture
  baseUrl := runner.baseUrl

/-- The requests that a run of units sends, each with the names of the links at that time. -/
def sightings (names : σ → Finset String) (runner : SuiteRunner (StateM σ)) (stamp : RunStamp)
    (suite : String) (units : List TestUnit) (s : σ) : List (Http.Request × Finset String) :=
  (((runner.watched names).runUnits stamp suite units).run ([], s)).2.1

theorem watched_coupled (names : σ → Finset String) (runner : SuiteRunner (StateM σ)) :
    PortsCoupled (fun world s => world.2 = s) (runner.watched names) runner where
  create _ := Noting.silent_coupled _
  save _ := Noting.silent_coupled _
  delete _ := Noting.silent_coupled _
  execute _ := Noting.noted_coupled _ _
  log _ := Noting.silent_coupled _
  fixture := rfl
  baseUrl := rfl

/-- A watch changes nothing else about a run. -/
theorem watched_runUnits (names : σ → Finset String) (runner : SuiteRunner (StateM σ))
    (stamp : RunStamp) (suite : String) (units : List TestUnit)
    (world : List (Http.Request × Finset String) × σ) :
    (((runner.watched names).runUnits stamp suite units).run world).1 =
        ((runner.runUnits stamp suite units).run world.2).1 ∧
      (((runner.watched names).runUnits stamp suite units).run world).2.2 =
        ((runner.runUnits stamp suite units).run world.2).2 :=
  (runner.watched_coupled names).runUnits (Noting.silent_coupled _) stamp suite units world _ rfl

theorem watched_keeps (names : σ → Finset String) (runner : SuiteRunner (StateM σ))
    (P : List (Http.Request × Finset String) → Prop) :
    PortsKeep (fun world => P world.1) (runner.watched names) where
  create _ := Noting.silent_keeps _
  save _ := Noting.silent_keeps _
  delete _ := Noting.silent_keeps _
  log _ := Noting.silent_keeps _
  clock := Noting.silent_keeps _

end SuiteRunner

/-- In each of the notes the link of the fixture is there. -/
def Attended (fixture : LinkFixture) (notes : List (Http.Request × Finset String)) : Prop :=
  ∀ sighting ∈ notes, fixture.name ∈ sighting.2

namespace HoldsLinks

variable {names : σ → Finset String} {runner : SuiteRunner (StateM σ)}

/-- Where the set-up returns, the link of the fixture is there. -/
theorem setUp_watched (h : HoldsLinks names runner) :
    Ensures (fun world => Attended runner.fixture world.1) (runner.watched names).setUp
      fun answer world => Attended runner.fixture world.1 ∧
        (answer = .returned () → runner.fixture.name ∈ names world.2) := by
  have hkeep := runner.watched_keeps names (Attended runner.fixture)
  refine .chain (hkeep.create _) (fun link => ?_) (fun _ _ hs => ⟨hs, nofun⟩)
    (fun _ _ hs => ⟨hs, nofun⟩)
  refine .chain (R := fun answer world => Attended runner.fixture world.1 ∧
      (answer = .returned () → runner.fixture.name ∈ names world.2)) ?_ (fun _ => ?_)
    (fun _ _ hs => ⟨hs.1, nofun⟩) (fun _ _ hs => ⟨hs.1, nofun⟩)
  · intro world hworld
    exact ⟨hworld, h.saved (runner.fixture.applyTo link) world.2 trivial⟩
  · rintro world ⟨hworld, hsaved⟩
    refine ⟨hworld, fun _ => ?_⟩
    show runner.fixture.name ∈ names ((runner.log _).run world.2).2
    rw [h.log _ (names world.2) world.2 rfl]
    exact hsaved rfl

theorem exercise_watched (h : HoldsLinks names runner) (unit : TestUnit) :
    Ensures (fun world => Attended runner.fixture world.1 ∧ runner.fixture.name ∈ names world.2)
      ((runner.watched names).exercise unit) fun _ world => Attended runner.fixture world.1 := by
  refine SuiteRunner.exercise_ensures unit (fun _ hs => hs.1) ?_ fun _ => ?_
  · rintro world ⟨hworld, hthere⟩
    refine ⟨hworld, ?_⟩
    show runner.fixture.name ∈ names ((runner.log _).run world.2).2
    rw [h.log _ (names world.2) world.2 rfl]
    exact hthere
  · exact Noting.noted_keeps (Q := fun s => runner.fixture.name ∈ names s) _ fun _ hs => hs

/-- Whatever runs under the guard of a unit, its request is sent while the link is there. -/
theorem guarded_watched (h : HoldsLinks names runner) (unit : TestUnit) :
    Ensures (fun world => Attended runner.fixture world.1)
      (Outcome.chain (runner.watched names).setUp fun () => (runner.watched names).exercise unit)
      fun _ world => Attended runner.fixture world.1 := by
  refine .chain h.setUp_watched (fun _ => ?_) (fun _ _ hs => hs.1) (fun _ _ hs => hs.1)
  rintro world ⟨hworld, hthere⟩
  exact h.exercise_watched unit world ⟨hworld, hthere rfl⟩

/-- Every request of a run of units is sent while the link of the fixture is there. -/
theorem sightings_attended (h : HoldsLinks names runner) (stamp : RunStamp) (suite : String)
    (units : List TestUnit) (s : σ) :
    Attended runner.fixture (runner.sightings names stamp suite units s) :=
  (runner.watched_keeps names _).runUnits h.guarded_watched stamp suite units ([], s) nofun

end HoldsLinks

namespace KeepsLinks

variable {names : σ → Finset String} {runner : SuiteRunner (StateM σ)}

/-- Every unit has a report, and each leaves the names without that of the fixture. -/
theorem statesAfter_names (h : KeepsLinks names runner) {rest : Finset String}
    (units : List TestUnit) (s : σ) (hs : (names s).erase runner.fixture.name = rest) :
    (runner.statesAfter units s).length = units.length ∧
      ∀ s' ∈ runner.statesAfter units s, names s' = rest := by
  induction units generalizing s with
  | nil => exact ⟨rfl, nofun⟩
  | cons unit units ih =>
    obtain ⟨hnames, report, hreport, -⟩ := h.runUnit unit s hs
    have hothers : (names ((runner.runUnit unit).run s).2).erase runner.fixture.name = rest := by
      rw [hnames, ← hs, Finset.erase_idem]
    obtain ⟨hlength, hstates⟩ := ih _ hothers
    rw [runner.statesAfter_cons_ok (Prod.ext hreport rfl)]
    refine ⟨congrArg Nat.succ hlength, fun s' hs' => ?_⟩
    rcases List.mem_cons.1 hs' with rfl | hlater
    · exact hnames
    · exact hstates s' hlater

/-- What comes behind the last unit of a run leaves the names as they are. -/
theorem runUnits_names (h : KeepsLinks names runner) (stamp : RunStamp) (suite : String)
    (units : List TestUnit) (s : σ) :
    names ((runner.runUnits stamp suite units).run s).2 =
      names ((runner.runEach units).run (runner.clock.run s).2).2 := by
  have hwhole : Ensures (· = s) (runner.runUnits stamp suite units) fun _ s' =>
      names s' = names ((runner.runEach units).run (runner.clock.run s).2).2 := by
    unfold SuiteRunner.runUnits
    refine .bind (R := fun _ s' => s' = (runner.clock.run s).2) ?_ fun start => ?_
    · rintro _ rfl
      rfl
    refine .bind (R := fun _ s' =>
      names s' = names ((runner.runEach units).run (runner.clock.run s).2).2) ?_ fun reports => ?_
    · rintro _ rfl
      rfl
    cases reports with
    | error crash => exact .pure fun _ hs => hs
    | ok reports =>
      refine .after (.after (h.clock _) fun _ => .pure fun _ hs => hs) fun _ => ?_
      exact .after (h.log _ _) fun _ => .pure fun _ hs => hs
  exact hwhole s rfl

end KeepsLinks

namespace HoldsLinks

variable {names : σ → Finset String} {runner : SuiteRunner (StateM σ)}

/-- Every unit of a run and the run as a whole take away the name of the fixture and no other, and
every request is sent while the link of the fixture is there. -/
theorem runUnits_removes_fixture (h : HoldsLinks names runner) (stamp : RunStamp) (suite : String)
    {units : List TestUnit} (hunits : units ≠ []) (s : σ) :
    (runner.statesAfter units (runner.clock.run s).2).length = units.length ∧
      (∀ s' ∈ runner.statesAfter units (runner.clock.run s).2,
        names s' = (names s).erase runner.fixture.name) ∧
      names ((runner.runUnits stamp suite units).run s).2 =
        (names s).erase runner.fixture.name ∧
      ∀ sighting ∈ runner.sightings names stamp suite units s,
        runner.fixture.name ∈ sighting.2 := by
  have hstart : (names (runner.clock.run s).2).erase runner.fixture.name =
      (names s).erase runner.fixture.name := by
    rw [h.clock (names s) s rfl]
  obtain ⟨hlength, hstates⟩ := h.toKeepsLinks.statesAfter_names units _ hstart
  refine ⟨hlength, hstates, ?_, h.sightings_attended stamp suite units s⟩
  have hsome : runner.statesAfter units (runner.clock.run s).2 ≠ [] := by
    rw [← List.length_pos_iff, hlength]
    exact List.length_pos_iff.2 hunits
  rw [h.toKeepsLinks.runUnits_names, runner.runEach_state, List.getLastD_eq_getLast?,
    List.getLast?_eq_getLast_of_ne_nil hsome]
  exact hstates _ (List.getLast_mem hsome)

end HoldsLinks

namespace LinkServer

/-- A server that keeps a link whenever it reports that it has saved it. -/
theorem holdsLinks {ω : Type} (server : LinkServer)
    (hsaved : ∀ link names, server.save link names = .returned () →
      server.keeps link names = true ∨ link.name ∈ names)
    (log : Logger (StateM ω)) (clock : StateM ω UInt64) (fixture : LinkFixture)
    (baseUrl : String) : HoldsLinks Prod.fst (server.runner log clock fixture baseUrl) where
  toKeepsLinks := server.keepsLinks log clock fixture baseUrl
  saved link := by
    rintro ⟨kept, w⟩ - hanswer
    show link.name ∈ if server.keeps link kept then insert link.name kept else kept
    split
    · exact Finset.mem_insert_self _ _
    · next hkeeps => exact (hsaved link kept hanswer).resolve_left hkeeps

/-- A server that keeps each link, even where it says that it was there before, and that breaks off
at one of the resources. -/
def flaky : LinkServer where
  create connectorName _ := .returned (.ofConnector connectorName)
  save link names :=
    if link.name ∈ names then .failed (.unexpectedStatus "save link" 409 link.name)
    else .returned ()
  keeps _ _ := true
  respond request _ :=
    if request.url = "http://[::1]/v1/driver" then .crashed ⟨some "driver"⟩
    else .returned (.ofBody 200 "")
  deleteMissing name _ := .error (.unexpectedStatus "delete link" 404 name)

/-- The runner over that server, with a clock that goes on by one at each look. -/
def flakyRunner : SuiteRunner (StateM (Finset String × UInt64)) :=
  flaky.runner (fun _ => pure ()) (modifyGet fun now => (now, now + 1)) .standard "http://[::1]/"

/-- Three units, of which the second one breaks off. -/
def unevenUnits : List TestUnit :=
  [Registry.reading "Early" "version" (.status 200),
    Registry.reading "Driver" "v1/driver" (.status 200),
    Registry.reading "Late" "version" (.status 404)].map (TestUnit.ofCase "S")

/-- The link of the fixture was there before and is gone after each of the units. The first saving
fails and keeps its link all the same, the second request breaks off. -/
theorem runUnits_removes_fixture_flaky :
    (flakyRunner.statesAfter unevenUnits ({"first-link", "other"}, 1)).length = 3 ∧
      (∀ world ∈ flakyRunner.statesAfter unevenUnits ({"first-link", "other"}, 1),
        world.1 = {"other"}) ∧
      ((flakyRunner.runUnits ⟨"run", ⟨0, 0⟩⟩ "S" unevenUnits).run
        ({"first-link", "other"}, 0)).2.1 = {"other"} ∧
      ∀ sighting ∈ flakyRunner.sightings Prod.fst ⟨"run", ⟨0, 0⟩⟩ "S" unevenUnits
        ({"first-link", "other"}, 0), "first-link" ∈ sighting.2 := by
  have hserver : HoldsLinks Prod.fst flakyRunner :=
    flaky.holdsLinks (fun _ _ _ => .inl rfl) _ _ _ _
  have herase : ({"first-link", "other"} : Finset String).erase "first-link" = {"other"} := by
    decide
  have hunits : unevenUnits ≠ [] := by simp [unevenUnits]
  obtain ⟨hlength, hstates, hend, hsightings⟩ :=
    HoldsLinks.runUnits_removes_fixture hserver ⟨"run", ⟨0, 0⟩⟩ "S" hunits
      ({"first-link", "other"}, 0)
  exact ⟨hlength, fun world hworld => (hstates world hworld).trans herase, hend.trans herase,
    hsightings⟩

end LinkServer

end RestConformance
