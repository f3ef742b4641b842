import RestConformance.Proofs.Suite.Coupling
import RestConformance.Proofs.Suite.LinkSet

/-!
# Servers known by their links

A server whose only state is the set of names of its links. It may reject, fail and break off as it
likes, as long as what it answers depends on the call and on that set. Only a deletion does not
break off.

## Main definitions

* `LinkServer` – such a server;
* `LinkServer.runner` – the runner over it.

## Main results

* `LinkServer.keepsLinks` – what the calls of a run do to the names;
* `LinkServer.portsCoupled` – from the same names, the calls have the same answers.
-/

namespace RestConformance

variable {ω : Type}

/-- A server whose only state is the set of names of its links. What it answers depends on the call
and the names. -/
structure LinkServer where
  /-- The answer to a creation. It keeps nothing. -/
  create : String → Finset String → Outcome FixtureFailure Link
  /-- The answer to a saving. -/
  save : Link → Finset String → Outcome FixtureFailure Unit
  /-- Whether the link of a saving is kept. -/
  keeps : Link → Finset String → Bool
  /-- The answer to a request. It changes nothing. -/
  respond : Http.Request → Finset String → Outcome Http.Failure Capture
  /-- The answer to the deletion of a link that is not there. -/
  deleteMissing : String → Finset String → Except FixtureFailure Unit

/-- A call whose answer and effect depend on the names. Beside the names there is a world of its own
for the log and the clock. -/
def portOf {α : Type} (answer : Finset String → α) (change : Finset String → Finset String) :
    StateM (Finset String × ω) α :=
  fun world => (answer world.1, change world.1, world.2)

/-- A computation of the world beside the names. -/
def beside {α : Type} (x : StateM ω α) : StateM (Finset String × ω) α :=
  fun world => ((x.run world.2).1, world.1, (x.run world.2).2)

namespace LinkServer

variable (server : LinkServer)

/-- The client of the server. The deletion of a link that is not there changes nothing. -/
def client : FixtureClient (StateM (Finset String × ω)) where
  create connectorName := portOf (server.create connectorName) id
  save link := portOf (server.save link) fun names =>
    if server.keeps link names then insert link.name names else names
  delete name := portOf
    (fun names =>
      if name ∈ names then .returned () else .ofExcept (server.deleteMissing name names))
    fun names => names.erase name
  contains name := portOf (fun names => .returned (decide (name ∈ names))) id

/-- The runner over the server. -/
def runner (log : Logger (StateM ω)) (clock : StateM ω UInt64) (fixture : LinkFixture)
    (baseUrl : String) : SuiteRunner (StateM (Finset String × ω)) where
  execute request := portOf (server.respond request) id
  fixtures := server.client
  log entry := beside (log entry)
  clock := beside clock
  fixture := fixture
  baseUrl := baseUrl

variable (log : Logger (StateM ω)) (clock : StateM ω UInt64) (fixture : LinkFixture)
  (baseUrl : String)

theorem keepsLinks : KeepsLinks Prod.fst (server.runner log clock fixture baseUrl) where
  create _ _ := fun _ hs => hs
  save link kept := by
    rintro ⟨_, w⟩ rfl
    show (if _ then _ else _) = _ ∨ (if _ then _ else _) = _
    split
    · exact .inr rfl
    · exact .inl rfl
  delete name kept := by
    rintro ⟨_, w⟩ rfl
    refine ⟨rfl, fun crash => ?_⟩
    show (if _ then _ else _) ≠ _
    split
    · exact nofun
    · exact Outcome.ofExcept_ne_crashed
  execute _ _ := fun _ hs => hs
  log _ _ := fun _ hs => hs
  clock _ := fun _ hs => hs

/-- Calls from the same names have the same answers and lead to the same names. -/
theorem portOf_coupled {α : Type} (answer : Finset String → α)
    (change : Finset String → Finset String) :
    Coupled (fun world world' : Finset String × ω => world.1 = world'.1) Eq (portOf answer change)
      (portOf answer change) := by
  rintro ⟨_, w⟩ ⟨_, w'⟩ rfl
  exact ⟨rfl, rfl⟩

/-- What the server answers depends on the names and on nothing else. -/
theorem portsCoupled :
    PortsCoupled (fun world world' => world.1 = world'.1) (server.runner log clock fixture baseUrl)
      (server.runner log clock fixture baseUrl) where
  create _ := portOf_coupled _ _
  save _ := portOf_coupled _ _
  delete _ := portOf_coupled _ _
  execute _ := portOf_coupled _ _
  log _ := fun _ _ hstates => ⟨rfl, hstates⟩
  fixture := rfl
  baseUrl := rfl

end LinkServer

end RestConformance
