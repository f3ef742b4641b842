import RestConformance.Http.Client
import RestConformance.Registry
import RestConformance.Settings
import RestConformance.Suite.FixtureClient
import RestConformance.Suite.Runner

/-!
# The harness

Runs the registry against the server that the settings name. After the run it looks whether the
link of the fixture was left behind, and tells so.

## Main definitions

* `Surroundings` – what a run takes from the outside;
* `Harness.run` – the run of some settings.
-/

namespace RestConformance

/-- What a run takes from the outside. -/
structure Surroundings (m : Type → Type) where
  fileContent : String → m (Except FileProblem Bytes)
  /-- Carries requests, each of which may take a number of milliseconds. -/
  transport : Option UInt64 → Http.Transport m
  log : Logger m
  /-- The milliseconds that a steady clock shows. -/
  clock : m UInt64

namespace Harness

variable {m : Type → Type} [Monad m] (outside : Surroundings m) (settings : Settings)

/-- The client of a run. -/
def client : Http.Client m where
  credentials := settings.credentialSource outside.fileContent
  transport := outside.transport settings.timeoutMs
  log := outside.log

/-- The fixture client of a run. -/
def fixtures : FixtureClient m :=
  restFixtureClient (client outside settings).execute outside.log settings.baseUrl

/-- The runner of a run. -/
def runner : SuiteRunner m where
  execute := (client outside settings).execute
  fixtures := fixtures outside settings
  log := outside.log
  clock := outside.clock
  fixture := .standard
  baseUrl := settings.baseUrl

/-- Tells that the run begins. -/
def runningEntry (settings : Settings) : LogEntry :=
  ⟨.info, "running registry", [("suite", settings.suiteName), ("base_url", settings.baseUrl),
    ("cases", toString Registry.restCalls.length)]⟩

/-- Tells of a link that was left behind. -/
def leftoverEntries (name : String) : Outcome FixtureFailure Bool → List LogEntry
  | .returned false => []
  | .returned true =>
    [⟨.warn, "fixture link still exists after the run", [("link", name)]⟩]
  | .failed failure =>
    [⟨.warn, "could not check for leftover fixture link: " ++ failure.message,
      [("link", name)]⟩]
  | .crashed _ => []

/-- Looks whether the link of the fixture was left behind. -/
def checkLeftover : m (Outcome FixtureFailure Bool) := do
  let name := (runner outside settings).fixture.name
  let found ← (fixtures outside settings).contains name
  (leftoverEntries name found).forM outside.log
  return found

/-- Runs the registry. A crash of the last look ends the run as well. -/
def run (stamp : RunStamp) : m (Outcome SuiteError RunReport) := do
  outside.log (runningEntry settings)
  Outcome.chain ((runner outside settings).run stamp settings.suiteName Registry.restCalls)
    fun report => do
      match ← checkLeftover outside settings with
      | .crashed crash => return .crashed crash
      | .returned _ | .failed _ => return .returned report

end Harness

end RestConformance
